import NXCast.App.Coordinator

/-!
# Leases under the coordinator

What any interleaving of coordinator calls may do to the ownership.  Outside the transition
lock nobody grants a lease: a section there keeps the owner or drops it
(`PlayerOwnership.Drops`).  Inside it only `media_begin` does.  `leaseSpec` says of every
call what its sections do with that, and `coordinatorProgram_correct` that the programs keep
to it.

With `steady` set, the lifecycle is also looked at: while it is not stopped, only the lock
stops it and nobody turns exclusive resources on.  Every call but `start` keeps that.
-/

namespace NXCast

open Interleaving ProtocolCoordinator Thread.Keeps Valid PlayerOwnership PlayerOwnership.Extends List

/-! ## The protocol -/

/-- Outside the lock a running coordinator is not stopped, and not made exclusive. -/
def KeepsExclusive (c c' : ProtocolCoordinator) : Prop :=
  c.lifecycle ≠ .stopped → c'.lifecycle ≠ .stopped ∧
    (c'.exclusiveMediaResources = true → c.exclusiveMediaResources = true)

lemma KeepsExclusive.refl (c : ProtocolCoordinator) : KeepsExclusive c c :=
  fun h => ⟨h, id⟩

variable {c c' : ProtocolCoordinator}

lemma KeepsExclusive.trans {c'' : ProtocolCoordinator} (h : KeepsExclusive c c')
    (h' : KeepsExclusive c' c'') : KeepsExclusive c c'' := by
  intro hrun
  obtain ⟨hrun', hexcl⟩ := h hrun
  obtain ⟨hrun'', hexcl'⟩ := h' hrun'
  exact ⟨hrun'', fun hset => hexcl (hexcl' hset)⟩

variable (steady : Bool)

/-- The protocol of the ownership. -/
def leaseProtocol : Protocol ProtocolCoordinator where
  always c := c.ownership.Sound
  lockInv _ := True
  unlocked c c' := c.ownership.Drops c'.ownership ∧ (steady = true → KeepsExclusive c c')
  locked c c' := c.ownership.Extends c'.ownership
  quiet _ _ := True
  allowed _ _ := True
  unlocked_refl c := ⟨PlayerOwnership.Drops.refl _, fun _ => KeepsExclusive.refl c⟩
  unlocked_trans h h' :=
    ⟨h.1.trans h'.1, fun hsteady => (h.2 hsteady).trans (h'.2 hsteady)⟩
  locked_trans := PlayerOwnership.Extends.trans
  quiet_refl _ := trivial
  quiet_trans _ _ := trivial
  locked_of_unlocked h := h.1.extends
  lockInv_unlocked _ _ _ _ := trivial

/-- What a section outside the lock does. -/
structure Unprivileged (steady : Bool) (c c' : ProtocolCoordinator) : Prop where
  sound : c.ownership.Sound → c'.ownership.Sound
  drops : c.ownership.Drops c'.ownership
  exclusive : steady = true → KeepsExclusive c c'

/-- What a section inside the lock does, `media_begin`'s claim aside. -/
structure Privileged (c c' : ProtocolCoordinator) : Prop where
  sound : c.ownership.Sound → c'.ownership.Sound
  drops : c.ownership.Drops c'.ownership

lemma Unprivileged.of_ownership_eq {steady : Bool} (h : c'.ownership = c.ownership)
    (hexcl : steady → KeepsExclusive c c') : Unprivileged steady c c' :=
  ⟨fun hsound => h ▸ hsound, h ▸ PlayerOwnership.Drops.refl _, hexcl⟩

lemma Privileged.of_ownership_eq (h : c'.ownership = c.ownership) : Privileged c c' :=
  ⟨fun hsound => h ▸ hsound, h ▸ PlayerOwnership.Drops.refl _⟩

lemma ProtocolCoordinator.SameMedia.unprivileged (h : SameMedia c c') : Unprivileged steady c c' :=
  .of_ownership_eq h.ownership fun _ hrun =>
    ⟨fun hstop => hrun (h.stopped.mp hstop), fun hset => h.exclusiveMediaResources ▸ hset⟩

lemma unprivileged_refl (c : ProtocolCoordinator) : Unprivileged steady c c :=
  (SameMedia.refl c).unprivileged steady

/-! ## Programs outside the lock -/

section Keeps

variable (steady : Bool)

lemma keeps_applyMediaEvent (event : ProtocolMediaEvent) (allow : Bool) :
    (coordinatorApplyMediaEvent event allow).Keeps (Unprivileged steady) := by
  unfold coordinatorApplyMediaEvent
  split
  · exact pure _
  refine atomic fun c => ?_
  obtain ⟨howner, hexcl, hstop, -⟩ := applyMediaEvent_spec event c
  exact .of_ownership_eq howner fun _ hrun =>
    ⟨fun h => hrun (hstop.mp h), fun hset => hexcl ▸ hset⟩

lemma keeps_setActiveMedia (lease : Option PlayerOwnershipLease) :
    (coordinatorSetActiveMedia lease).Keeps (Unprivileged steady) := by
  cases lease with
  | some lease => exact (keeps_applyMediaEvent steady _ _).bind fun _ => pure _
  | none =>
    exact (get (unprivileged_refl steady) _).bind fun _ =>
      (keeps_applyMediaEvent steady _ _).bind fun _ => pure _

lemma keeps_setDesiredResourceMode (mode : ProtocolResourceMode) :
    (coordinatorSetDesiredResourceMode mode).Keeps (Unprivileged steady) := by
  refine modify fun c => ?_
  obtain ⟨howner, hexcl, hstop, -⟩ := setDesiredResourceMode_spec mode c
  exact .of_ownership_eq howner fun _ hrun =>
    ⟨fun h => hrun (hstop.mp h), fun hset => hexcl ▸ hset⟩

lemma keeps_setDiscoverySuspended (policy : ProtocolDiscoverySuspensionPolicy) (suspended : Bool) :
    (coordinatorSetDiscoverySuspendedForPolicy policy suspended).Keeps (Unprivileged steady) :=
  modify fun c => (applyDiscoverySuspension_spec _ _ c).unprivileged steady

lemma keeps_clearMedia : coordinatorClearMedia.Keeps (Unprivileged steady) :=
  (keeps_setActiveMedia steady _).bind fun _ =>
    (keeps_setDesiredResourceMode steady _).bind fun _ => keeps_setDiscoverySuspended steady _ _

lemma keeps_releaseAirplayOwner (lease : PlayerOwnershipLease) :
    (coordinatorReleaseAirplayOwner lease).Keeps (Unprivileged steady) := by
  unfold coordinatorReleaseAirplayOwner
  split
  · exact pure _
  refine (get (unprivileged_refl steady) _).bind fun callback => ?_
  split
  · exact answer
  · exact pure _

lemma keeps_takeover (owner : PlayerMediaOwner) :
    (coordinatorTakeover owner).Keeps (Unprivileged steady) := by
  refine (get (unprivileged_refl steady) _).bind fun exclusive => ?_
  split
  · exact pure _
  refine (get (unprivileged_refl steady) _).bind fun previous => ?_
  split
  · exact keeps_releaseAirplayOwner steady _
  · exact pure _

lemma keeps_syncSession (current observed : PlayerOwnershipLease) :
    (coordinatorSyncSession current observed).Keeps (Unprivileged steady) := by
  unfold coordinatorSyncSession
  split
  all_goals
    split
    · exact (keeps_applyMediaEvent steady _ _).bind fun _ => pure _
    · exact pure _

lemma keeps_stopServices (services : List ProtocolService) :
    (coordinatorStopServices services).Keeps (Unprivileged steady) := by
  induction services with
  | nil => exact pure _
  | cons service services ih =>
    refine bind (answer.bind fun stopRequired => ?_) fun _ => ih
    split
    · exact atomic fun c => (setServiceState_spec _ _ c).unprivileged steady
    · exact pure _

lemma keeps_publishClaim (lease : PlayerOwnershipLease) :
    (coordinatorPublishClaim lease).Keeps (Unprivileged steady) :=
  (keeps_setActiveMedia steady _).bind fun _ =>
    (keeps_setDesiredResourceMode steady _).bind fun _ => keeps_setDiscoverySuspended steady _ _

lemma keeps_released (released : Bool) :
    (coordinatorReleased released).Keeps (Unprivileged steady) := by
  unfold coordinatorReleased
  split
  · exact keeps_clearMedia steady
  · exact pure _

end Keeps

/-! ## What a call does -/

/-- The lease is the newest one, or a newer one than all that had been granted before. -/
def PlayerOwnership.NotSuperseded (o o' : PlayerOwnership) (lease : PlayerOwnershipLease) :
    Prop :=
  ∃ recent, o'.claims = recent ++ o.claims ∧ (lease ∈ recent ∨ o.claims.head? = some lease)

variable {o : PlayerOwnership}

lemma PlayerOwnership.NotSuperseded.trans {o' o'' : PlayerOwnership}
    {lease : PlayerOwnershipLease} (h : o.NotSuperseded o' lease) (hext : o'.Extends o'') :
    o.NotSuperseded o'' lease := by
  obtain ⟨recent, hrecent, hlease⟩ := h
  obtain ⟨later, hlater⟩ := hext.claims
  refine ⟨later ++ recent, by rw [← hlater, hrecent, append_assoc], ?_⟩
  rcases hlease with hmem | hhead
  · exact .inl (mem_append_right later hmem)
  · exact .inr hhead

lemma PlayerOwnership.notSuperseded_of_newest {o' : PlayerOwnership}
    {lease : PlayerOwnershipLease} (hext : o.Extends o') (hnewest : o'.claims.head? = some lease) :
    o.NotSuperseded o' lease := by
  obtain ⟨recent, hrecent⟩ := hext.claims
  refine ⟨recent, hrecent.symm, ?_⟩
  cases recent with
  | nil =>
    rw [nil_append] at hrecent
    exact .inr (hrecent ▸ hnewest)
  | cons newest recent =>
    rw [← hrecent, cons_append, head?_cons, Option.some.injEq] at hnewest
    exact .inl (hnewest ▸ mem_cons_self)

/-- The lease that a call releases. -/
def CoordinatorRequest.releases : CoordinatorRequest → Option PlayerOwnershipLease
  | .mediaRelease lease | .actorReleaseLease lease => some lease
  | .mediaAbort transaction => some transaction.lease
  | _ => none

/-- The lease that a call accepts or refuses. -/
def CoordinatorRequest.guards : CoordinatorRequest → Option PlayerOwnershipLease
  | .mediaValidate lease | .mediaWaitResources lease _ | .mediaDriveResources lease _
  | .mediaLeaseGuardBegin lease _ | .mediaRelease lease | .actorReleaseLease lease => some lease
  | _ => none

/-- A result that is no lease. -/
def CoordinatorResult.plain : CoordinatorResult → Bool
  | .guard _ | .transaction _ => false
  | _ => true

/-- The player is free, or its owner belongs to the family of the new one. -/
def Handover (c c' : ProtocolCoordinator) : Prop :=
  c.ownership.current.owner = .none ∨ c'.ownership.current.owner = .none ∨
    resourceModeForOwner c.ownership.current.owner =
      resourceModeForOwner c'.ownership.current.owner

/-- A release of the lease may have an effect: it is the newest one; or it is none, and nobody
owns the player. -/
def Releasable (lease : PlayerOwnershipLease) (c : ProtocolCoordinator) : Prop :=
  c.ownership.claims.head? = some lease ∨
    (lease.owner = .none ∧ c.ownership.current.owner = .none)

/-- What a section of a call does to the leases. -/
structure CallStep (steady : Bool) (request : CoordinatorRequest) (c c' : ProtocolCoordinator) :
    Prop where
  handover : steady = true → c.exclusiveMediaResources = true → Handover c c'
  grants : c'.ownership.claims = c.ownership.claims ∨
    ∃ owner token, request = .mediaBegin owner token ∧ c'.ownership.current.owner = owner ∧
      c'.ownership.claims = c'.ownership.current :: c.ownership.claims
  late : ∀ lease, request.releases = some lease → c' = c ∨ Releasable lease c

/-- The lease has been granted since a call began. -/
def Begun (start : ProtocolCoordinator) (lease : PlayerOwnershipLease) (c : ProtocolCoordinator) :
    Prop :=
  ∃ recent, c.ownership.claims = recent ++ start.ownership.claims ∧ lease ∈ recent

/-- What a call returns. -/
structure CallPost (request : CoordinatorRequest) (start : ProtocolCoordinator)
    (result : CoordinatorResult) (c : ProtocolCoordinator) : Prop where
  accepts : ∀ lease, request.guards = some lease → lease.owner ≠ .none → result = .bool true →
    start.ownership.NotSuperseded c.ownership lease
  hands : ∀ lease, result = .guard (some lease) → lease.owner ≠ .none →
    start.ownership.NotSuperseded c.ownership lease
  begins : ∀ transaction, result = .transaction (some transaction) →
    Begun start transaction.lease c

/-- What is to be proved of every call. -/
def leaseSpec : Spec ProtocolCoordinator CoordinatorResult CoordinatorRequest where
  step request _ := CallStep steady request
  post := CallPost

/-! ## Validity -/

lemma handover_of_drops (h : c.ownership.Drops c'.ownership) : Handover c c' := by
  rcases h.current with hsame | hnone
  · exact .inr (.inr (by rw [hsame]))
  · exact .inr (.inl (by rw [hnone]; rfl))

lemma Privileged.callStep {steady : Bool} {request : CoordinatorRequest} (h : Privileged c c')
    (hrel : request.releases = none) :
    CallStep steady request c c' where
  handover _ _ := handover_of_drops h.drops
  grants := .inl h.drops.claims
  late lease hlease := by
    rw [hrel] at hlease
    cases hlease

lemma callStep_refl {steady : Bool} {request : CoordinatorRequest} (c : ProtocolCoordinator) :
    CallStep steady request c c where
  handover _ _ := .inr (.inr rfl)
  grants := .inl rfl
  late _ _ := .inl rfl

section Valid

variable {α β : Type} {steady : Bool} {request : CoordinatorRequest} {mode : Mode}
  {c : ProtocolCoordinator}
  {c' : ProtocolCoordinator}

lemma rely_extends (h : (leaseProtocol steady).Rely mode c c') : c.ownership.Extends c'.ownership :=
  by
  cases mode with
  | free => exact h
  | held => exact h.1.extends
  | watching => exact h.1

lemma Unprivileged.guarantee (h : Unprivileged steady c c') :
    (leaseProtocol steady).Guarantee mode c c' := by
  cases mode with
  | free | watching => exact ⟨h.drops, h.exclusive⟩
  | held => exact h.drops.extends

variable {t : Coordinated α} {I : ProtocolCoordinator → Prop}

/-- `Valid` for what a call does. -/
abbrev CallValid (steady : Bool) (request : CoordinatorRequest) :
    (α → Mode → ProtocolCoordinator → Prop) → Coordinated α → Mode → ProtocolCoordinator → Prop :=
  Valid (leaseProtocol steady) (CallStep steady request)

/-- A program without privileges, of a call that `Step` lets do what it does. -/
lemma valid_of_unprivileged {Step : ProtocolCoordinator → ProtocolCoordinator → Prop}
    (hkeeps : t.Keeps (Unprivileged steady)) (hI : I c)
    (hstab : ∀ c c', I c → (leaseProtocol steady).Rely mode c c' → I c')
    (hsec : ∀ c c', I c → Unprivileged steady c c' → Step c c' ∧ I c') :
    Valid (leaseProtocol steady) Step (fun _ mode' c' => mode' = mode ∧ I c') t mode c := by
  refine of_keeps hkeeps hI (fun c c' h hrely _ => hstab c c' h hrely) ?_
  intro c c' hI hall _ hgood
  obtain ⟨hstep, hI'⟩ := hsec c c' hI hgood
  exact ⟨⟨hgood.sound hall, hgood.guarantee, hstep⟩, hI'⟩

/-- A program without privileges, of a call that releases nothing.  It keeps what the history of
the leases is enough for. -/
lemma valid_of_keeps (hkeeps : t.Keeps (Unprivileged steady)) (hrel : request.releases = none)
    (hI : I c) (hstab : ∀ c c', I c → c.ownership.Extends c'.ownership → I c') :
    CallValid steady request (fun _ mode' c' => mode' = mode ∧ I c') t mode c := by
  refine valid_of_unprivileged hkeeps hI (fun c c' h hrely => hstab c c' h (rely_extends hrely)) ?_
  intro c c' h hgood
  exact ⟨Privileged.callStep ⟨hgood.sound, hgood.drops⟩ hrel, hstab c c' h hgood.drops.extends⟩

lemma valid_modify_held {effect : ProtocolCoordinator → ProtocolCoordinator}
    (hsec : ∀ c, Privileged c (effect c)) (hrel : request.releases = none) :
    CallValid steady request (fun _ mode' _ => mode' = .held) (Thread.modify effect) .held c := by
  intro c' _ hall _
  exact ⟨⟨(hsec c').sound hall, (hsec c').drops.extends, (hsec c').callStep hrel⟩, rfl⟩

lemma privileged_reset (c : ProtocolCoordinator) :
    Privileged c { c with ownership := playerOwnershipReset c.ownership } :=
  ⟨PlayerOwnership.Sound.reset, drops_reset c.ownership⟩

lemma valid_locked {body : Coordinated α} (h : ∀ c', c'.ownership.Sound →
      CallValid steady request (fun _ mode' _ => mode' = .held) body .held c') :
    CallValid steady request (fun _ mode' _ => mode' = .free) (Thread.locked body) .free c := by
  refine locked fun c' _ hall _ => (h c' hall).mono ?_
  exact fun _ _ _ hmode => ⟨hmode, fun _ _ _ => ⟨trivial, rfl⟩⟩

lemma valid_finishStop (hrel : request.releases = none) :
    CallValid steady request (fun _ mode' _ => mode' = .free)
      protocolCoordinatorFinishStop .free c := by
  refine valid_locked fun c' _ => ?_
  refine bind ((valid_modify_held privileged_reset hrel).mono ?_)
  rintro _ _ c₁ rfl
  refine bind ((valid_modify_held (fun c => ?_) hrel).mono ?_)
  · exact .of_ownership_eq (applyDiscoverySuspension_spec _ _ c).ownership
  · rintro _ _ c₂ rfl
    exact valid_modify_held (fun c => .of_ownership_eq (finishStop_spec c).1) hrel

lemma callPost_of_plain {start : ProtocolCoordinator} {result : CoordinatorResult}
    (hguards : request.guards = none) (hres : result.plain) :
    CallPost request start result c where
  accepts lease hlease := by
    rw [hguards] at hlease
    cases hlease
  hands lease h := by
    rw [h] at hres
    cases hres
  begins transaction h := by
    rw [h] at hres
    cases hres

variable {wrap : α → CoordinatorResult}

lemma valid_plain (hwrap : ∀ value, (wrap value).plain)
    (hguards : request.guards = none) (h : CallValid steady request (fun _ mode' _ => mode' = .free)
      t .free c) :
    CallValid steady request (fun result mode c' => mode = .free ∧ CallPost request c result c')
      (t >>= fun value => pure (wrap value)) .free c := by
  refine bind (h.mono ?_)
  rintro value _ c' rfl
  exact ⟨rfl, callPost_of_plain hguards (hwrap value)⟩

lemma valid_plain_of_keeps
    (hwrap : ∀ value, (wrap value).plain) (hguards : request.guards = none)
    (hrel : request.releases = none) (hkeeps : t.Keeps (Unprivileged steady)) :
    CallValid steady request (fun result mode c' => mode = .free ∧ CallPost request c result c')
      (t >>= fun value => pure (wrap value)) .free c := by
  refine valid_plain hwrap hguards ((valid_of_keeps (I := fun _ => True) hkeeps hrel trivial
    fun _ _ _ _ => trivial).mono ?_)
  exact fun _ _ _ h => h.1

/-! ### Calls without a lease -/

variable (config : ProtocolCoordinatorConfig)

lemma unprivileged_beginStart (c : ProtocolCoordinator) :
    Unprivileged steady c (beginStart config c).2 := by
  rcases beginStart_spec config c with hsame | ⟨hstop, -, howner, -⟩
  · rw [hsame]
    exact unprivileged_refl steady c
  · exact .of_ownership_eq howner fun _ => absurd hstop

lemma unprivileged_clearRuntime (c : ProtocolCoordinator) :
    Unprivileged steady c (clearRuntime c) :=
  .of_ownership_eq rfl fun _ hrun => ⟨hrun, fun hset => by cases hset⟩

lemma unprivileged_playerReset (c : ProtocolCoordinator) :
    Unprivileged steady c { c with ownership := playerOwnershipReset c.ownership } where
  sound := PlayerOwnership.Sound.reset
  drops := drops_reset c.ownership
  exclusive _ hrun := ⟨hrun, id⟩

lemma keeps_start
    (hasSetDiscoverySuspended hasAirplayReleaseActiveMedia : Bool) :
    (protocolCoordinatorStart config hasSetDiscoverySuspended hasAirplayReleaseActiveMedia).Keeps
      (Unprivileged false) := by
  refine (atomic (unprivileged_beginStart config)).bind fun started => ?_
  split
  · exact pure _
  · refine (modify fun c => ?_).bind fun _ => pure _
    exact .of_ownership_eq rfl fun hsteady => by cases hsteady

lemma valid_of_keeps_mode (hkeeps : t.Keeps (Unprivileged steady)) (hrel : request.releases = none) :
    CallValid steady request (fun _ mode' _ => mode' = mode) t mode c :=
  (valid_of_keeps (I := fun _ => True) hkeeps hrel trivial fun _ _ _ _ => trivial).mono
    fun _ _ _ h => h.1

lemma valid_stop (hrel : request.releases = none) :
    CallValid steady request (fun _ mode' _ => mode' = .free) protocolCoordinatorStop .free c := by
  have hbegin : (Thread.atomic beginStop).Keeps (Unprivileged steady) :=
    atomic fun c => (beginStop_spec c).unprivileged steady
  refine bind ((valid_of_keeps_mode hbegin hrel).mono ?_)
  rintro stopping _ c₁ rfl
  split
  · exact pure rfl
  refine bind ((valid_of_keeps_mode (keeps_stopServices steady _) hrel).mono ?_)
  rintro _ _ c₂ rfl
  refine bind ((valid_finishStop hrel).mono ?_)
  rintro _ _ c₃ rfl
  exact valid_of_keeps_mode (modify unprivileged_clearRuntime) hrel

lemma valid_reset (hrel : request.releases = none) :
    CallValid steady request (fun _ mode' _ => mode' = .free) protocolCoordinatorReset .free c := by
  have hstop : CallValid steady request
      (fun _ mode' _ => mode' = .free) coordinatorStopRuntime .free c := by
    refine get_bind callStep_refl fun c₁ _ _ => ?_
    split
    · exact valid_stop hrel
    · exact pure rfl
  refine bind (hstop.mono ?_)
  rintro _ _ c₂ rfl
  refine valid_locked fun c₃ _ => ?_
  refine bind ((valid_modify_held privileged_reset hrel).mono ?_)
  rintro _ _ c₄ rfl
  exact valid_modify_held (fun c => .of_ownership_eq rfl) hrel

/-- The sync of a tick keeps what the history of the leases is enough for. -/
lemma valid_sync (hrel : request.releases = none) (hI : I c)
    (hstab : ∀ c c', I c → c.ownership.Extends c'.ownership → I c') :
    CallValid steady request (fun _ mode' c' => mode' = .free ∧ I c')
      coordinatorSyncActiveMedia .free c := by
  refine watched fun c₁ hrely _ => ?_
  have hbody : Thread.Keeps (Unprivileged steady) (do
      let observed ← Thread.get (·.mediaSession.lease)
      coordinatorSyncSession c₁.ownership.current observed
      coordinatorSetDesiredResourceMode
        (if c₁.ownership.current.owner ≠ .none then
          resourceModeForOwner c₁.ownership.current.owner else .home)
      coordinatorSetDiscoverySuspendedForPolicy .mediaOwnership
        (decide (c₁.ownership.current.owner ≠ .none))) :=
    (get (unprivileged_refl steady) _).bind fun _ =>
      (keeps_syncSession steady _ _).bind fun _ =>
        (keeps_setDesiredResourceMode steady _).bind fun _ => keeps_setDiscoverySuspended steady _ _
  refine (valid_of_keeps hbody hrel (hstab c c₁ hI (rely_extends hrely)) hstab).mono ?_
  rintro _ _ c₂ ⟨rfl, hI₂⟩
  exact ⟨rfl, fun c₃ hrely₃ _ => ⟨rfl, hstab c₂ c₃ hI₂ (rely_extends hrely₃)⟩⟩

/-! ### Calls that accept a lease -/

variable {start : ProtocolCoordinator} {lease : PlayerOwnershipLease}

/-- What accepting a lease means. -/
def Accepts (start : ProtocolCoordinator) (lease : PlayerOwnershipLease) (accepted : Bool)
    (c : ProtocolCoordinator) : Prop :=
  start.ownership.Extends c.ownership ∧
    (accepted = true → lease.owner ≠ .none → start.ownership.NotSuperseded c.ownership lease)

lemma Accepts.trans {accepted : Bool} (h : Accepts start lease accepted c)
    (hext : c.ownership.Extends c'.ownership) : Accepts start lease accepted c' :=
  ⟨h.1.trans hext, fun hacc howner => (h.2 hacc howner).trans hext⟩

lemma accepts_of_refused (h : start.ownership.Extends c.ownership) : Accepts start lease false c :=
  ⟨h, fun hacc => by cases hacc⟩

lemma valid_validate (hstart : start.ownership.Extends c.ownership) :
    CallValid steady request
      (fun valid mode' c' => mode' = mode ∧ Accepts start lease valid c') (ownershipValidate lease)
      mode c := by
  intro c' hrely hall _
  have hext := hstart.trans (rely_extends hrely)
  refine ⟨⟨hall, Protocol.Guarantee.refl mode c', callStep_refl c'⟩, rfl, hext, ?_⟩
  exact fun hvalid _ => notSuperseded_of_newest hext (hall.newest_of_validate hvalid).2

lemma valid_waitResources (rounds : ℕ) (hstart : start.ownership.Extends c.ownership) :
    CallValid steady request (fun ready mode' c' => mode' = .free ∧ Accepts start lease ready c')
      (protocolCoordinatorMediaWaitResources lease rounds) .free c := by
  induction rounds generalizing c with
  | zero => exact pure ⟨rfl, accepts_of_refused hstart⟩
  | succ rounds ih =>
    unfold protocolCoordinatorMediaWaitResources
    split
    · exact pure ⟨rfl, accepts_of_refused hstart⟩
    refine get_bind callStep_refl fun c₁ hrely _ => ?_
    have hstart₁ := hstart.trans (rely_extends hrely)
    split
    rename_i ready failed accepting _
    split
    · exact valid_validate hstart₁
    split
    · exact pure ⟨rfl, accepts_of_refused hstart₁⟩
    refine bind ((valid_validate hstart₁).mono ?_)
    rintro valid _ c₂ ⟨rfl, hstart₂, -⟩
    refine answer_bind fun timeout => ?_
    split
    · exact pure ⟨rfl, accepts_of_refused hstart₂⟩
    · exact ih hstart₂

lemma valid_driveResources (rounds : ℕ) (hrel : request.releases = none)
    (hstart : start.ownership.Extends c.ownership) :
    CallValid steady request (fun ready mode' c' => mode' = .free ∧ Accepts start lease ready c')
      (protocolCoordinatorMediaDriveResources lease rounds) .free c := by
  induction rounds generalizing c with
  | zero => exact pure ⟨rfl, accepts_of_refused hstart⟩
  | succ rounds ih =>
    unfold protocolCoordinatorMediaDriveResources
    split
    · exact pure ⟨rfl, accepts_of_refused hstart⟩
    have hsync : CallValid steady request
        (fun _ mode' c' => mode' = .free ∧ start.ownership.Extends c'.ownership)
        coordinatorSyncActiveMedia .free c :=
      valid_sync (I := fun c => start.ownership.Extends c.ownership) hrel hstart
        fun _ _ h hext => h.trans hext
    refine bind (hsync.mono ?_)
    rintro _ _ c₁ ⟨rfl, hstart₁⟩
    refine bind ((valid_waitResources 1 hstart₁).mono ?_)
    rintro ready _ c₂ ⟨rfl, haccepts⟩
    split_ifs with hready
    · exact pure ⟨rfl, haccepts.1, fun _ => haccepts.2 hready⟩
    refine bind ((valid_validate haccepts.1).mono ?_)
    rintro valid _ c₃ ⟨rfl, hstart₃, -⟩
    refine answer_bind fun timeout => ?_
    split
    · exact pure ⟨rfl, accepts_of_refused hstart₃⟩
    · exact ih hstart₃

lemma valid_leaseGuardBegin (allowStopping : Bool) (hstart : start.ownership.Extends c.ownership) :
    CallValid steady request (fun valid mode' c' => mode' = .free ∧ Accepts start lease valid c')
      (protocolCoordinatorMediaLeaseGuardBegin lease allowStopping) .free c := by
  unfold protocolCoordinatorMediaLeaseGuardBegin
  split
  · exact pure ⟨rfl, accepts_of_refused hstart⟩
  refine get_bind callStep_refl fun c₁ hrely₁ _ => ?_
  have hstart₁ := hstart.trans (rely_extends hrely₁)
  split
  · exact pure ⟨rfl, accepts_of_refused hstart₁⟩
  refine locked fun c₂ hrely₂ _ _ => ?_
  have hstart₂ := hstart₁.trans (rely_extends hrely₂)
  have hbody : CallValid steady request
      (fun valid mode' c' => mode' = .held ∧ Accepts start lease valid c')
      (coordinatorGuardLease lease allowStopping) .held c₂ := by
    refine get_bind callStep_refl fun c₃ hrely₃ _ => ?_
    have hstart₃ := hstart₂.trans (rely_extends hrely₃)
    split
    · exact valid_validate hstart₃
    · exact pure ⟨rfl, accepts_of_refused hstart₃⟩
  refine hbody.mono ?_
  rintro valid _ c₄ ⟨rfl, haccepts⟩
  exact ⟨rfl, fun c₅ hrely₅ _ => ⟨trivial, rfl, haccepts.trans (rely_extends hrely₅)⟩⟩

/-! ### Releases -/

lemma releasable_of_released (hsound : c.ownership.Sound)
    (hrel : (playerOwnershipRelease lease c.ownership).1) :
    lease = c.ownership.current ∧ Releasable lease c := by
  unfold playerOwnershipRelease at hrel
  split at hrel
  · rename_i hcur
    refine ⟨hcur, ?_⟩
    rcases hsound.current with hnone | hhead
    · exact .inr ⟨by rw [hcur, hnone]; rfl, by rw [hnone]; rfl⟩
    · exact .inl (hcur ▸ hhead)
  · cases hrel

lemma release_of_refused (href : (playerOwnershipRelease lease o).1 = false) :
    (playerOwnershipRelease lease o).2 = o := by
  unfold playerOwnershipRelease at href ⊢
  split_ifs with hcur
  · rw [if_pos hcur] at href
    cases href
  · rfl

lemma onOwnership_of_same {body : PlayerOwnership → α × PlayerOwnership}
    (h : (body c.ownership).2 = c.ownership) : (onOwnership body c).2 = c := by
  show { c with ownership := (body c.ownership).2 } = c
  rw [h]

lemma Releasable.of_drops (h : Releasable lease c) (hdrops : c.ownership.Drops c'.ownership) :
    Releasable lease c' := by
  rcases h with hhead | ⟨howner, hnone⟩
  · exact .inl (hdrops.claims ▸ hhead)
  refine .inr ⟨howner, ?_⟩
  rcases hdrops.current with hsame | hzero
  · rw [hsame, hnone]
  · rw [hzero]
    rfl

/-- The section in `ownership.c` of a release. -/
lemma valid_ownershipRelease (hreleases : ∀ other, request.releases = some other → other = lease)
    (hstart : start.ownership.Extends c.ownership) :
    CallValid steady request
      (fun released mode' c' => mode' = mode ∧ Accepts start lease released c' ∧
        (released → Releasable lease c'))
      (Thread.atomic (onOwnership (playerOwnershipRelease lease))) mode c := by
  intro c' hrely hall _
  have hext := hstart.trans (rely_extends hrely)
  have hdrops := drops_release lease c'.ownership
  have hgood : Unprivileged steady c' (onOwnership (playerOwnershipRelease lease) c').2 :=
    ⟨fun h => h.release lease, hdrops, fun _ hrun => ⟨hrun, id⟩⟩
  have hrel : ∀ released, (playerOwnershipRelease lease c'.ownership).1 = released →
      released → Releasable lease c' :=
    fun released heq htrue => (releasable_of_released hall (heq.trans htrue)).2
  refine ⟨⟨hgood.sound hall, hgood.guarantee, ?_⟩, rfl, ⟨?_, ?_⟩, ?_⟩
  · refine ⟨fun _ _ => handover_of_drops hdrops, .inl hdrops.claims, fun other hother => ?_⟩
    rw [hreleases other hother]
    cases heq : (playerOwnershipRelease lease c'.ownership).1 with
    | true => exact .inr (hrel true heq rfl)
    | false => exact .inl (onOwnership_of_same (release_of_refused heq))
  · exact hext.trans hdrops.extends
  · intro htrue howner
    refine notSuperseded_of_newest (hext.trans hdrops.extends) ?_
    rcases hrel true htrue rfl with hhead | ⟨hnone, -⟩
    · exact hdrops.claims ▸ hhead
    · exact absurd hnone howner
  · exact fun htrue => (hrel true htrue rfl).of_drops hdrops

/-- What a release that released something does to the coordinator's view. -/
lemma valid_released {released : Bool}
    (hrel : ∀ other, request.releases = some other → other = lease)
    (haccepts : Accepts start lease released c) (hreleasable : released → Releasable lease c) :
    CallValid steady request (fun _ mode' c' => mode' = .held ∧ Accepts start lease released c')
      (coordinatorReleased released) .held c := by
  cases released with
  | false => exact ⟨rfl, haccepts⟩
  | true =>
    have hkeeps : CallValid steady request
        (fun _ mode' c' => mode' = .held ∧ Accepts start lease true c' ∧ Releasable lease c')
        (coordinatorReleased true) .held c := by
      refine valid_of_unprivileged (keeps_released steady true) ⟨haccepts, hreleasable rfl⟩ ?_ ?_
      · exact fun c c' h hrely => ⟨h.1.trans (rely_extends hrely), h.2.of_drops hrely.1⟩
      intro c c' h hgood
      refine ⟨⟨fun _ _ => handover_of_drops hgood.drops, .inl hgood.drops.claims, ?_⟩,
        h.1.trans hgood.drops.extends, h.2.of_drops hgood.drops⟩
      intro other hother
      rw [hrel other hother]
      exact .inr h.2
    exact hkeeps.mono fun _ _ _ h => ⟨h.1, h.2.1⟩

lemma valid_mediaRelease (hrel : ∀ other, request.releases = some other → other = lease)
    (hstart : start.ownership.Extends c.ownership) :
    CallValid steady request
      (fun released mode' c' => mode' = .free ∧ Accepts start lease released c')
      (protocolCoordinatorMediaRelease lease) .free c := by
  refine locked fun c₁ hrely _ _ => ?_
  refine bind ((valid_ownershipRelease hrel (hstart.trans (rely_extends hrely))).mono ?_)
  rintro released _ c₂ ⟨rfl, haccepts, hreleasable⟩
  refine bind ((valid_released hrel haccepts hreleasable).mono ?_)
  rintro _ _ c₃ ⟨rfl, haccepts₃⟩
  exact ⟨rfl, fun c₄ hrely₄ _ => ⟨trivial, rfl, haccepts₃.trans (rely_extends hrely₄)⟩⟩

/-! ### `media_begin` -/

/-- What `media_begin` has tested when it claims. -/
def MayClaim (steady : Bool) (owner : PlayerMediaOwner) (c : ProtocolCoordinator) : Prop :=
  steady = true → c.lifecycle ≠ .stopped ∧
    (c.exclusiveMediaResources = true → c.ownership.current.owner = .none ∨
      resourceModeForOwner c.ownership.current.owner = resourceModeForOwner owner)

lemma owner_of_drops (h : c.ownership.Drops c'.ownership) :
    c'.ownership.current.owner = .none ∨
      c'.ownership.current.owner = c.ownership.current.owner := by
  rcases h.current with hsame | hzero
  · exact .inr (by rw [hsame])
  · exact .inl (by rw [hzero]; rfl)

variable {owner : PlayerMediaOwner}

lemma MayClaim.of_rely (h : MayClaim steady owner c)
    (hrely : (leaseProtocol steady).Rely .held c c') : MayClaim steady owner c' := by
  intro hsteady
  obtain ⟨hrun, hfree⟩ := h hsteady
  obtain ⟨hrun', hexcl⟩ := hrely.2 hsteady hrun
  refine ⟨hrun', fun hset => ?_⟩
  rcases owner_of_drops hrely.1 with hnone | hsame
  · exact .inl hnone
  · rw [hsame]
    exact hfree (hexcl hset)

lemma Begun.of_extends (h : Begun start lease c) (hext : c.ownership.Extends c'.ownership) :
    Begun start lease c' := by
  obtain ⟨recent, hrecent, hmem⟩ := h
  obtain ⟨later, hlater⟩ := hext.claims
  exact ⟨later ++ recent, by rw [← hlater, hrecent, append_assoc], mem_append_right later hmem⟩

lemma running_of_accepts (h : c.accepts false) : c.lifecycle ≠ .stopped := by
  intro hstop
  rw [accepts, hstop] at h
  simp at h

lemma valid_mayClaim (owner : PlayerMediaOwner) (hstart : start.ownership.Extends c.ownership) :
    CallValid steady request
      (fun may mode' c' => mode' = .held ∧ start.ownership.Extends c'.ownership ∧
        (may = true → MayClaim steady owner c'))
      (coordinatorMayClaim owner) .held c := by
  refine get_bind callStep_refl fun c₁ hrely₁ _ => ?_
  refine get_bind callStep_refl fun c₂ hrely₂ _ => ?_
  have hstart₂ := (hstart.trans (rely_extends hrely₁)).trans (rely_extends hrely₂)
  split_ifs with haccepts
  · exact pure ⟨rfl, hstart₂, fun h => by cases h⟩
  have hrun := running_of_accepts (eq_true_of_ne_false haccepts)
  refine get_bind callStep_refl fun c₃ hrely₃ _ => ?_
  refine pure ⟨rfl, hstart₂.trans (rely_extends hrely₃), fun hmay hsteady => ?_⟩
  refine ⟨(hrely₃.2 hsteady hrun).1, fun hset => ?_⟩
  rw [hset, Bool.true_and, Bool.not_eq_true', Bool.and_eq_false_iff, decide_eq_false_iff_not,
    decide_eq_false_iff_not, not_not, not_not] at hmay
  -- since the owner was read, it can only have gone
  rcases owner_of_drops (hrely₂.1.trans hrely₃.1) with hnone | hsame
  · exact .inl hnone
  · rwa [hsame]

lemma valid_claim {token : UInt64} (howner : owner ≠ .none) (hmay : MayClaim steady owner c)
    (hstart : start.ownership.Extends c.ownership) :
    CallValid steady (.mediaBegin owner token)
      (fun claimed mode' c' => mode' = .held ∧ start.ownership.Extends c'.ownership ∧
        ∀ lease previous, claimed = some (lease, previous) → Begun start lease c')
      (Thread.atomic (onOwnership (playerOwnershipClaim owner token))) .held c := by
  intro c' hrely hall _
  have hstart' := hstart.trans (rely_extends hrely)
  have hext := extends_claim owner token c'.ownership
  refine ⟨⟨hall.claim owner token, hext, ?_⟩, rfl, hstart'.trans hext, ?_⟩
  · refine ⟨fun hsteady hset => ?_, .inr ⟨owner, token, rfl, ?_, ?_⟩, fun lease h => by cases h⟩
    · rcases ((hmay.of_rely hrely) hsteady).2 hset with hnone | hsame
      · exact .inl hnone
      refine .inr (.inr ?_)
      simp only [onOwnership, playerOwnershipClaim, if_neg howner]
      exact hsame
    all_goals simp only [onOwnership, playerOwnershipClaim, if_neg howner]
  · intro lease previous hclaim
    simp only [onOwnership, playerOwnershipClaim, if_neg howner, Option.some.injEq,
      Prod.mk.injEq] at hclaim ⊢
    obtain ⟨earlier, hearlier⟩ := hstart'.claims
    refine ⟨lease :: earlier, ?_, .head _⟩
    rw [cons_append, hearlier, ← hclaim.1]

lemma valid_coordinatorClaim {token : UInt64} (howner : owner ≠ .none)
    (hstart : start.ownership.Extends c.ownership) :
    CallValid steady (.mediaBegin owner token) (fun transaction mode' c' => mode' = .held ∧
        ∀ claimed, transaction = some claimed → Begun start claimed.lease c')
      (coordinatorClaim owner token) .held c := by
  refine bind ((valid_mayClaim owner hstart).mono ?_)
  rintro may _ c₁ ⟨rfl, hstart₁, hmay⟩
  cases may with
  | false => exact pure ⟨rfl, fun claimed h => by cases h⟩
  | true =>
    refine bind ((valid_claim howner (hmay rfl) hstart₁).mono ?_)
    rintro claimed _ c₂ ⟨rfl, -, hbegun⟩
    cases claimed with
    | none => exact pure ⟨rfl, fun claimed h => by cases h⟩
    | some pair =>
      obtain ⟨lease, previous⟩ := pair
      refine bind ((valid_of_keeps (keeps_publishClaim steady lease) rfl
        (hbegun lease previous rfl) fun _ _ h hext => h.of_extends hext).mono ?_)
      rintro _ _ c₃ ⟨rfl, hbegun₃⟩
      refine pure ⟨rfl, fun claimed h => ?_⟩
      cases h
      exact hbegun₃

lemma valid_mediaBegin (owner : PlayerMediaOwner) (token : UInt64) :
    CallValid steady (.mediaBegin owner token) (fun transaction mode' c' => mode' = .free ∧
        ∀ claimed, transaction = some claimed → Begun c claimed.lease c')
      (protocolCoordinatorMediaBegin owner token) .free c := by
  unfold protocolCoordinatorMediaBegin
  split_ifs with howner
  · exact pure ⟨rfl, fun claimed h => by cases h⟩
  refine get_bind callStep_refl fun c₁ hrely₁ _ => ?_
  split
  · exact pure ⟨rfl, fun claimed h => by cases h⟩
  refine bind ((valid_of_keeps (I := fun c' => c.ownership.Extends c'.ownership)
    (keeps_takeover steady owner) rfl (rely_extends hrely₁)
    fun _ _ h hext => h.trans hext).mono ?_)
  rintro free _ c₂ ⟨rfl, hstart₂⟩
  split
  · exact pure ⟨rfl, fun claimed h => by cases h⟩
  refine locked fun c₃ hrely₃ _ _ => ?_
  refine (valid_coordinatorClaim howner (hstart₂.trans (rely_extends hrely₃))).mono ?_
  rintro transaction _ c₄ ⟨rfl, hbegun⟩
  exact ⟨rfl, fun c₅ hrely₅ _ => ⟨trivial, rfl, fun claimed h =>
    (hbegun claimed h).of_extends (rely_extends hrely₅)⟩⟩

/-! ### Guards by owner and token -/

/-- A lease that is handed out is the current one. -/
def Hands (start : ProtocolCoordinator) (lease : PlayerOwnershipLease) (c : ProtocolCoordinator) :
    Prop :=
  lease.owner ≠ .none → start.ownership.NotSuperseded c.ownership lease

lemma valid_current (hstart : start.ownership.Extends c.ownership) :
    CallValid steady request
      (fun lease mode' c' => mode' = mode ∧ Hands start lease c') ownershipCurrent mode c := by
  intro c' hrely hall _
  refine ⟨⟨hall, Protocol.Guarantee.refl mode c', callStep_refl c'⟩, rfl, fun howner => ?_⟩
  simp only at howner
  refine notSuperseded_of_newest (hstart.trans (rely_extends hrely)) ?_
  rcases hall.current with hnone | hhead
  · rw [hnone] at howner
    exact absurd rfl howner
  · exact hhead

lemma Hands.trans (h : Hands start lease c) (hext : c.ownership.Extends c'.ownership) :
    Hands start lease c' :=
  fun howner => (h howner).trans hext

lemma valid_guard {test : ProtocolCoordinator → Bool} {may : PlayerOwnershipLease → Bool → Bool}
    (hstart : start.ownership.Extends c.ownership) :
    CallValid steady request
      (fun guard mode' c' => mode' = .free ∧ ∀ lease, guard = some lease → Hands start lease c')
      (Thread.locked do
        let lease ← ownershipCurrent
        let accepts ← Thread.get test
        pure (if may lease accepts then some lease else none)) .free c := by
  refine locked fun c₁ hrely₁ _ _ => ?_
  refine bind ((valid_current (hstart.trans (rely_extends hrely₁))).mono ?_)
  rintro lease _ c₂ ⟨rfl, hhands⟩
  refine get_bind callStep_refl fun c₃ hrely₃ _ => ?_
  refine pure ⟨rfl, fun c₄ hrely₄ _ => ⟨trivial, rfl, fun other hother => ?_⟩⟩
  split at hother
  · cases hother
    exact (hhands.trans (rely_extends hrely₃)).trans (rely_extends hrely₄)
  · cases hother

lemma valid_guardBegin (owner : PlayerMediaOwner) (token : UInt64)
    (hstart : start.ownership.Extends c.ownership) :
    CallValid steady request
      (fun guard mode' c' => mode' = .free ∧ ∀ lease, guard = some lease → Hands start lease c')
      (protocolCoordinatorMediaGuardBegin owner token) .free c := by
  unfold protocolCoordinatorMediaGuardBegin
  split
  · exact pure ⟨rfl, fun lease h => by cases h⟩
  refine get_bind callStep_refl fun c₁ hrely₁ _ => ?_
  split
  · exact pure ⟨rfl, fun lease h => by cases h⟩
  · exact valid_guard (hstart.trans (rely_extends hrely₁))

lemma valid_unownedOrOwnerGuardBegin (owner : PlayerMediaOwner) (token : UInt64)
    (hstart : start.ownership.Extends c.ownership) :
    CallValid steady request
      (fun guard mode' c' => mode' = .free ∧ ∀ lease, guard = some lease → Hands start lease c')
      (protocolCoordinatorMediaUnownedOrOwnerGuardBegin owner token) .free c := by
  unfold protocolCoordinatorMediaUnownedOrOwnerGuardBegin
  split
  · exact pure ⟨rfl, fun lease h => by cases h⟩
  refine get_bind callStep_refl fun c₁ hrely₁ _ => ?_
  split
  · exact pure ⟨rfl, fun lease h => by cases h⟩
  · exact valid_guard (hstart.trans (rely_extends hrely₁))

lemma valid_barrierBegin (hstart : start.ownership.Extends c.ownership) :
    CallValid steady request (fun lease mode' c' => mode' = .free ∧ Hands start lease c')
      protocolCoordinatorMediaBarrierBegin .free c := by
  refine locked fun c₁ hrely₁ _ _ => ?_
  refine (valid_current (hstart.trans (rely_extends hrely₁))).mono ?_
  rintro lease _ c₂ ⟨rfl, hhands⟩
  exact ⟨rfl, fun c₃ hrely₃ _ => ⟨trivial, rfl, hhands.trans (rely_extends hrely₃)⟩⟩

lemma valid_mediaReleaseCurrent (owner : PlayerMediaOwner) (token : UInt64)
    (hreleases : request.releases = none) :
    CallValid steady request (fun _ mode' _ => mode' = .free)
      (protocolCoordinatorMediaReleaseCurrent owner token) .free c := by
  refine valid_locked fun c₁ _ => ?_
  have hrel : (Thread.atomic (onOwnership (playerOwnershipReleaseCurrent owner token))).Keeps
      (Unprivileged steady) :=
    atomic fun c => ⟨fun h => h.releaseCurrent owner token,
      drops_releaseCurrent owner token c.ownership,
      fun _ hrun => ⟨hrun, id⟩⟩
  refine bind ((valid_of_keeps_mode hrel hreleases).mono ?_)
  rintro released _ c₂ rfl
  refine bind ((valid_of_keeps_mode (keeps_released steady released) hreleases).mono ?_)
  rintro _ _ c₃ rfl
  exact pure rfl

/-! ### All calls -/

lemma callPost_of_accepts {accepted : Bool}
    (hguards : ∀ other, request.guards = some other → other = lease)
    (h : Accepts start lease accepted c) : CallPost request start (.bool accepted) c where
  accepts other hother howner hacc := by
    cases hacc
    rw [hguards other hother] at howner ⊢
    exact h.2 rfl howner
  hands _ h := by cases h
  begins _ h := by cases h

lemma callPost_of_hands {guard : Option PlayerOwnershipLease} (hguards : request.guards = none)
    (h : ∀ lease, guard = some lease → Hands start lease c) :
    CallPost request start (.guard guard) c where
  accepts _ hother := by
    rw [hguards] at hother
    cases hother
  hands lease hres := by
    cases hres
    exact h lease rfl
  begins _ hres := by cases hres

lemma callPost_of_begun {transaction : Option ProtocolMediaTransaction}
    (hguards : request.guards = none)
    (h : ∀ claimed, transaction = some claimed → Begun start claimed.lease c) :
    CallPost request start (.transaction transaction) c where
  accepts _ hother := by
    rw [hguards] at hother
    cases hother
  hands _ hres := by cases hres
  begins claimed hres := by
    cases hres
    exact h claimed rfl

lemma valid_accepting {t : Coordinated Bool}
    (hguards : ∀ other, request.guards = some other → other = lease) (h : CallValid steady request
      (fun accepted mode' c' => mode' = .free ∧ Accepts c lease accepted c') t .free c) :
    CallValid steady request (fun result mode c' => mode = .free ∧ CallPost request c result c')
      (t >>= fun accepted => pure (.bool accepted)) .free c := by
  refine bind (h.mono ?_)
  rintro accepted _ c' ⟨rfl, haccepts⟩
  exact ⟨rfl, callPost_of_accepts hguards haccepts⟩

lemma valid_handing {t : Coordinated (Option PlayerOwnershipLease)}
    (hguards : request.guards = none) (h : CallValid steady request
      (fun guard mode' c' => mode' = .free ∧ ∀ lease, guard = some lease → Hands c lease c') t
      .free c) :
    CallValid steady request (fun result mode c' => mode = .free ∧ CallPost request c result c')
      (t >>= fun guard => pure (.guard guard)) .free c := by
  refine bind (h.mono ?_)
  rintro guard _ c' ⟨rfl, hhands⟩
  exact ⟨rfl, callPost_of_hands hguards hhands⟩

/-- A release through `ownership.c` alone, as the media actor makes it. -/
lemma valid_actorReleaseLease :
    CallValid steady (.actorReleaseLease lease)
      (fun result mode c' => mode = .free ∧ CallPost (.actorReleaseLease lease) c result c')
      (coordinatorProgram (.actorReleaseLease lease)) .free c := by
  refine valid_accepting (fun other h => by cases h; rfl) ?_
  refine (valid_ownershipRelease (fun other h => by cases h; rfl) (refl c.ownership)).mono ?_
  exact fun _ _ _ h => ⟨h.1, h.2.1⟩

lemma valid_mediaAbort (transaction : ProtocolMediaTransaction) :
    CallValid steady (.mediaAbort transaction)
      (fun _ mode' _ => mode' = .free) (protocolCoordinatorMediaAbort transaction) .free c := by
  unfold protocolCoordinatorMediaAbort
  split
  · exact pure rfl
  refine valid_locked fun c₁ _ => ?_
  refine bind ((valid_ownershipRelease (fun other h => by cases h; rfl)
    (refl c₁.ownership)).mono ?_)
  rintro released _ c₂ ⟨rfl, haccepts, hreleasable⟩
  exact (valid_released (fun other h => by cases h; rfl) haccepts hreleasable).mono
    fun _ _ _ h => h.1

end Valid

/-- The calls that are looked at: with `steady`, nobody starts the coordinator again. -/
def LeaseCallable (request : CoordinatorRequest) : Prop :=
  steady = true → ∀ config a b, request ≠ .start config a b

/-- **Every call keeps to the lease protocol.** -/
theorem coordinatorProgram_correct :
    Correct (leaseProtocol steady) (leaseSpec steady) (LeaseCallable steady)
      coordinatorProgram := by
  intro request hcallable c hall
  have hrefl := refl c.ownership
  cases request with
  | mediaBegin owner token =>
    refine bind ((valid_mediaBegin owner token).mono ?_)
    rintro transaction _ c' ⟨rfl, hbegun⟩
    exact ⟨rfl, callPost_of_begun rfl hbegun⟩
  | mediaValidate lease =>
    exact valid_accepting (fun _ h => by cases h; rfl) (valid_validate hrefl)
  | mediaWaitResources lease rounds =>
    exact valid_accepting (fun _ h => by cases h; rfl) (valid_waitResources rounds hrefl)
  | mediaDriveResources lease rounds =>
    exact valid_accepting (fun _ h => by cases h; rfl) (valid_driveResources rounds rfl hrefl)
  | mediaRelease lease =>
    exact valid_accepting (fun _ h => by cases h; rfl)
      (valid_mediaRelease (fun _ h => by cases h; rfl) hrefl)
  | mediaAbort transaction =>
    exact valid_plain (fun _ => rfl) rfl (valid_mediaAbort transaction)
  | mediaReleaseCurrent owner token =>
    exact valid_plain (fun _ => rfl) rfl (valid_mediaReleaseCurrent owner token rfl)
  | mediaGuardBegin owner token =>
    exact valid_handing rfl (valid_guardBegin owner token hrefl)
  | mediaUnownedOrOwnerGuardBegin owner token =>
    exact valid_handing rfl (valid_unownedOrOwnerGuardBegin owner token hrefl)
  | mediaLeaseGuardBegin lease allowStopping =>
    exact valid_accepting (fun _ h => by cases h; rfl) (valid_leaseGuardBegin allowStopping hrefl)
  | mediaBarrierBegin =>
    refine bind ((valid_barrierBegin hrefl).mono ?_)
    rintro lease _ c' ⟨rfl, hhands⟩
    refine ⟨rfl, callPost_of_hands rfl fun other h => ?_⟩
    cases h
    exact hhands
  | mediaSubmitEvent event =>
    exact valid_plain_of_keeps (fun _ => rfl) rfl rfl (keeps_applyMediaEvent steady event false)
  | syncActiveMedia =>
    refine valid_plain (fun _ => rfl) rfl ?_
    exact (valid_sync (I := fun _ => True) rfl trivial fun _ _ _ _ => trivial).mono
      fun _ _ _ h => h.1
  | setPlaybackActive active =>
    exact valid_plain_of_keeps (fun _ => rfl) rfl rfl (keeps_setDiscoverySuspended steady _ _)
  | setServiceState service state =>
    exact valid_plain_of_keeps (fun _ => rfl) rfl rfl
      (atomic fun c => (setServiceState_spec service state c).unprivileged steady)
  | beginStart config =>
    exact valid_plain_of_keeps (fun _ => rfl) rfl rfl (atomic (unprivileged_beginStart config))
  | start config a b =>
    cases steady with
    | true => exact absurd rfl (hcallable rfl config a b)
    | false => exact valid_plain_of_keeps (fun _ => rfl) rfl rfl (keeps_start config a b)
  | beginStop =>
    exact valid_plain_of_keeps (fun _ => rfl) rfl rfl
      (atomic fun c => (beginStop_spec c).unprivileged steady)
  | finishStop => exact valid_plain (fun _ => rfl) rfl (valid_finishStop rfl)
  | stop => exact valid_plain (fun _ => rfl) rfl (valid_stop rfl)
  | reset => exact valid_plain (fun _ => rfl) rfl (valid_reset rfl)
  | actorReleaseLease lease => exact valid_actorReleaseLease
  | playerReset =>
    exact valid_plain_of_keeps (fun _ => rfl) rfl rfl (modify unprivileged_playerReset)
  | launchResourceWorker =>
    exact valid_plain_of_keeps (fun _ => rfl) rfl rfl
      (modify fun c => (launchResourceWorker_spec c).unprivileged steady)
  | finishResourceWorker target completed success =>
    exact valid_plain_of_keeps (fun _ => rfl) rfl rfl
      (modify fun c =>
        (finishResourceWorker_spec target completed success c).unprivileged steady)

end NXCast
