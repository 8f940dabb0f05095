import NXCast.Framework.Holdings
import NXCast.Player.Ownership
import NXCast.Session.ObserveAtomic

/-!
# The lease of the remote session

`integration.c` keeps the lease of the remote session that has the player in one slot.
`integration_remote_claim` stores into it after it has retained the logical session, and
`integration_remote_release` reads it, gives the player back without the lock, empties the slot, and
releases the logical session.  The release does not look at the slot again when it empties it, so
the slot is disturbed by a claim that falls in between; and it recognises its claim by the slot only,
so a claim that another one stored over cannot be released.

`Timely` says when neither happens.  The history of a world is what its sections have done, newest
first; the claims not yet released are counted in it.
-/

namespace NXCast

open Interleaving Multiset AirPlaySessionManager Holds

/-! ## The module -/

/-- The lease is that of a remote session. -/
abbrev PlayerOwnershipLease.RemoteOf (lease : PlayerOwnershipLease) (session : UInt64) : Prop :=
  lease.owner = .airplayVideo ∧ lease.token = session

/-- What a section of a claim or a release does: a claim retains its session and stores its lease over
another; a release misses its lease, or finds it, clears what is stored, and drops its session. -/
inductive RemoteLeaseEvent where
  | retained (session : UInt64)
  | stored (lease replaced : PlayerOwnershipLease)
  | missed (session : UInt64)
  | found (lease : PlayerOwnershipLease)
  | cleared (read stored : PlayerOwnershipLease)
  | dropped (session : UInt64)
deriving DecidableEq

/-- What the claims and releases share. -/
structure RemoteLeaseWorld where
  ownership : PlayerOwnership
  remoteLease : PlayerOwnershipLease
  sessions : AirPlaySessionManager
  history : List RemoteLeaseEvent

abbrev RemoteLeaseThread := Thread RemoteLeaseWorld

namespace RemoteLeaseWorld

/-- Before the first claim. -/
def initial (ownership : PlayerOwnership) : RemoteLeaseWorld := ⟨ownership, .zero, .create, []⟩

def record (event : RemoteLeaseEvent) (world : RemoteLeaseWorld) : RemoteLeaseWorld :=
  { world with history := event :: world.history }

/-- `player_ownership_claim`, as `protocol_coordinator_media_begin` calls it. -/
def claimPlayer (session : UInt64) (world : RemoteLeaseWorld) :
    Option PlayerOwnershipLease × RemoteLeaseWorld :=
  let (granted, ownership) := playerOwnershipClaim .airplayVideo session world.ownership
  (granted.map Prod.fst, { world with ownership })

/-- `airplay_receiver_retain_media_session` -/
def retainSession (session : UInt64) (world : RemoteLeaseWorld) : Bool × RemoteLeaseWorld :=
  let (sessions, retained) := world.sessions.retainMedia session
  if retained then (true, { world with sessions }.record (.retained session))
  else (false, { world with sessions })

/-- The section of `integration_remote_claim`. -/
def storeLease (lease : PlayerOwnershipLease) (world : RemoteLeaseWorld) : RemoteLeaseWorld :=
  { world with remoteLease := lease }.record (.stored lease world.remoteLease)

/-- `integration_remote_lease`, and what `integration_remote_release` makes of the lease. -/
def readLease (session : UInt64) (world : RemoteLeaseWorld) :
    Option PlayerOwnershipLease × RemoteLeaseWorld :=
  if world.remoteLease.RemoteOf session then
    (some world.remoteLease, world.record (.found world.remoteLease))
  else (none, world.record (.missed session))

/-- The section of `integration_remote_release`. -/
def clearLease (read : PlayerOwnershipLease) (world : RemoteLeaseWorld) : RemoteLeaseWorld :=
  { world with remoteLease := .zero }.record (.cleared read world.remoteLease)

/-- `airplay_receiver_release_media_session` -/
def releaseSession (session : UInt64) (world : RemoteLeaseWorld) : RemoteLeaseWorld :=
  { world with sessions := (world.sessions.releaseMedia session).1 }.record (.dropped session)

end RemoteLeaseWorld

open RemoteLeaseWorld

/-- `protocol_coordinator_media_abort` -/
def remoteClaimAbort (lease : PlayerOwnershipLease) : RemoteLeaseThread Unit :=
  Thread.modify fun world =>
    { world with ownership := (playerOwnershipRelease lease world.ownership).2 }

/-- `integration_remote_claim` with the player. -/
def integrationRemoteClaimed (session : UInt64) (lease : PlayerOwnershipLease) :
    RemoteLeaseThread Bool := do
  -- `protocol_coordinator_media_wait_resources`
  let ready ← Thread.answer
  if ready = false then do
    remoteClaimAbort lease
    pure false
  else do
    let retained ← Thread.atomic (retainSession session)
    if retained = false then do
      remoteClaimAbort lease
      pure false
    else do
      Thread.modify (storeLease lease)
      pure true

/-- `integration_remote_claim` -/
def integrationRemoteClaim (session : UInt64) : RemoteLeaseThread Bool := do
  -- the tests of `protocol_coordinator_media_begin`
  let begun ← Thread.answer
  if begun = false then pure false
  else do
    let granted ← Thread.atomic (claimPlayer session)
    match granted with
    | none => pure false
    | some lease => integrationRemoteClaimed session lease

/-- `integration_remote_release` -/
def integrationRemoteRelease (session : UInt64) : RemoteLeaseThread Unit := do
  let found ← Thread.atomic (readLease session)
  match found with
  | none => pure ()
  | some lease => do
    -- the player is asked to release the lease
    let _ ← Thread.answer
    Thread.modify (clearLease lease)
    Thread.modify (releaseSession session)

/-- The calls of any number of threads: claims and releases, what connections do to the logical
sessions, and the claims of other owners. -/
inductive RemoteLeaseCall where
  | claim (session : UInt64)
  | release (session : UInt64)
  | observe (connectionId : UInt64) (request : AirPlayRtspRequest)
  | close (connectionId : UInt64)
  | bindClient (connectionId : UInt64) (clientId : AirPlayClientId)
  | markTransportTeardown (connectionId : UInt64)
  | claimPlayer (owner : PlayerMediaOwner) (token : UInt64)

/-- A call of the session manager. -/
def sessionCall (effect : AirPlaySessionManager → AirPlaySessionManager) :
    RemoteLeaseThread Unit :=
  Thread.modify fun world => { world with sessions := effect world.sessions }

def RemoteLeaseCall.program : RemoteLeaseCall → RemoteLeaseThread Unit
  | .claim session => do
    let _ ← integrationRemoteClaim session
    pure ()
  | .release session => integrationRemoteRelease session
  | .observe connectionId request => sessionCall fun sessions =>
    (sessions.observe connectionId request).1
  | .close connectionId => sessionCall fun sessions => (sessions.close connectionId).1
  | .bindClient connectionId clientId => sessionCall fun sessions =>
    (sessions.bindClient connectionId clientId).1
  | .markTransportTeardown connectionId => sessionCall fun sessions =>
    (sessions.markTransportTeardown connectionId).1
  | .claimPlayer owner token => Thread.modify fun world =>
    { world with ownership := (playerOwnershipClaim owner token world.ownership).2 }

/-! ## The history -/

/-- One, if it is so. -/
abbrev tally (p : Prop) [Decidable p] : ℕ := if p then 1 else 0

/-- The claims of a session that are granted and not yet released.  A release without a claim releases
nothing. -/
def unreleasedClaims (session : UInt64) : List RemoteLeaseEvent → ℕ
  | .stored lease _ :: history =>
    unreleasedClaims session history + tally (lease.token = session)
  | .missed other :: history => unreleasedClaims session history - tally (other = session)
  | .dropped other :: history => unreleasedClaims session history - tally (other = session)
  | _ :: history => unreleasedClaims session history
  | [] => 0

/-- The claims of a session that have retained it and not stored their lease. -/
def retainedClaims (session : UInt64) : List RemoteLeaseEvent → ℕ
  | .retained other :: history => retainedClaims session history + tally (other = session)
  | .stored lease _ :: history => retainedClaims session history - tally (lease.token = session)
  | _ :: history => retainedClaims session history
  | [] => 0

/-- The releases of a session that have found their lease and not dropped the session. -/
def releasesUnderWay (session : UInt64) : List RemoteLeaseEvent → ℕ
  | .found lease :: history => releasesUnderWay session history + tally (lease.token = session)
  | .dropped other :: history => releasesUnderWay session history - tally (other = session)
  | _ :: history => releasesUnderWay session history
  | [] => 0

/-- The releases that have found their lease and not cleared it. -/
def releasesClearing : List RemoteLeaseEvent → ℕ
  | .found _ :: history => releasesClearing history + 1
  | .cleared .. :: history => releasesClearing history - 1
  | _ :: history => releasesClearing history
  | [] => 0

/-- The leases of a session that another was stored over. -/
def replacedLeases (session : UInt64) : List RemoteLeaseEvent → ℕ
  | .stored _ replaced :: history =>
    replacedLeases session history + tally (replaced.RemoteOf session)
  | _ :: history => replacedLeases session history
  | [] => 0

/-- What releases have cleared: the lease that was read, and the one that was stored. -/
def clearedLeases : List RemoteLeaseEvent → List (PlayerOwnershipLease × PlayerOwnershipLease)
  | .cleared read stored :: history => (read, stored) :: clearedLeases history
  | _ :: history => clearedLeases history
  | [] => []

/-- No release has cleared a lease other than the one it read. -/
def ClearsItsOwn (history : List RemoteLeaseEvent) : Prop :=
  ∀ clear ∈ clearedLeases history, clear.2 = .zero ∨ clear.2 = clear.1

/-- When a section may be: a claim stores its lease while no release is between reading and clearing;
the releases of one session come one after the other; and none of them misses its lease because another
was stored over it. -/
def RemoteLeaseEvent.Timely (history : List RemoteLeaseEvent) : RemoteLeaseEvent → Prop
  | .stored .. => releasesClearing history = 0
  | .found lease => releasesUnderWay lease.token history = 0
  | .missed session => releasesUnderWay session history = 0 ∧ replacedLeases session history = 0
  | _ => True

instance (history : List RemoteLeaseEvent) (event : RemoteLeaseEvent) :
    Decidable (event.Timely history) := by
  cases event <;> unfold RemoteLeaseEvent.Timely <;> infer_instance

/-! ## What threads hold -/

/-- What a thread has to do: a claim to store its lease, a release to clear the lease it has found, or
to drop its session. -/
inductive RemoteLeaseDuty where
  | store (session : UInt64)
  | clear (lease : PlayerOwnershipLease)
  | drop (session : UInt64)
deriving DecidableEq

open RemoteLeaseDuty

namespace RemoteLeaseDuty

abbrev Clears : RemoteLeaseDuty → Prop
  | .clear _ => True
  | _ => False

/-- The duty is that of a release of the session. -/
abbrev Releases (session : UInt64) : RemoteLeaseDuty → Prop
  | .store _ => False
  | .clear lease => lease.token = session
  | .drop other => other = session

instance : DecidablePred Clears
  | .store _ => inferInstanceAs (Decidable False)
  | .clear _ => inferInstanceAs (Decidable True)
  | .drop _ => inferInstanceAs (Decidable False)

instance (session : UInt64) : DecidablePred (Releases session)
  | .store _ => inferInstanceAs (Decidable False)
  | .clear lease => inferInstanceAs (Decidable (lease.token = session))
  | .drop other => inferInstanceAs (Decidable (other = session))

end RemoteLeaseDuty

namespace RemoteLeaseWorld

variable {world : RemoteLeaseWorld} {all : Multiset RemoteLeaseDuty} {session : UInt64}
  {lease : PlayerOwnershipLease}

/-- The references of a session: those of its claims. -/
def references (world : RemoteLeaseWorld) (session : UInt64) : ℕ :=
  unreleasedClaims session world.history + retainedClaims session world.history

/-- The invariant.  A claim not yet released has its lease in the slot, or it was stored over, or a
release is about to drop its session. -/
structure Balanced (world : RemoteLeaseWorld) (all : Multiset RemoteLeaseDuty) : Prop where
  sound : world.sessions.Sound world.references
  none_zero : world.references 0 = 0
  retained : ∀ session, retainedClaims session world.history = all.count (.store session)
  unreleased : ∀ session, unreleasedClaims session world.history =
    tally (world.remoteLease.RemoteOf session) + replacedLeases session world.history +
      all.count (.drop session)
  clearing : releasesClearing world.history = all.countP RemoteLeaseDuty.Clears
  read : ∀ lease, .clear lease ∈ all → world.remoteLease = lease ∧ lease.owner = .airplayVideo
  underWay : ∀ session, releasesUnderWay session world.history =
    all.countP (RemoteLeaseDuty.Releases session)
  alone : ∀ session, releasesUnderWay session world.history ≤ 1
  own : ClearsItsOwn world.history

lemma balanced_initial (ownership : PlayerOwnership) : (initial ownership).Balanced 0 where
  sound := sound_create
  none_zero := rfl
  retained _ := rfl
  unreleased _ := rfl
  clearing := rfl
  read _ h := by simp at h
  underWay _ := rfl
  alone _ := Nat.zero_le 1
  own _ h := by simp [initial, clearedLeases] at h

lemma Balanced.withOwnership (h : world.Balanced all) (ownership : PlayerOwnership) :
    { world with ownership }.Balanced all :=
  ⟨h.sound, h.none_zero, h.retained, h.unreleased, h.clearing, h.read, h.underWay, h.alone, h.own⟩

lemma Balanced.withSessions (h : world.Balanced all) {sessions : AirPlaySessionManager}
    (hsound : sessions.Sound world.references) : { world with sessions }.Balanced all :=
  ⟨hsound, h.none_zero, h.retained, h.unreleased, h.clearing, h.read, h.underWay, h.alone, h.own⟩

/-! ### The sections -/

lemma retainMedia_ne_zero {manager : AirPlaySessionManager}
    (h : (manager.retainMedia session).2) : session ≠ 0 := by
  rintro rfl
  unfold retainMedia at h
  exact Bool.false_ne_true h

lemma releaseMedia_granted {manager : AirPlaySessionManager} {references : UInt64 → ℕ}
    (h : manager.Sound references) (hsess : session ≠ 0) (hpos : 0 < references session) :
    (manager.releaseMedia session).2 := by
  unfold releaseMedia
  rw [if_neg hsess]
  split
  · rename_i hmiss
    exact absurd (h.owed hpos) (not_inUse_of_findLogicalById hmiss)
  rename_i position logical hfound
  obtain ⟨hposition, hid⟩ := findLogicalById_some hfound
  have hcount := h.media hposition
  rw [hid] at hcount
  rw [if_pos]
  rw [UInt32.lt_iff_toNat_lt, hcount]
  exact hpos

lemma Balanced.retainSession (h : world.Balanced all) (session : UInt64) :
    (world.retainSession session).2.Balanced
      (if (world.retainSession session).1 then .store session ::ₘ all else all) := by
  have hsound := h.sound.retainMedia session
  unfold RemoteLeaseWorld.retainSession
  dsimp only
  split
  · rename_i hretained
    rw [if_pos hretained] at hsound
    have hsess := retainMedia_ne_zero hretained
    have hrefs : retainReferences world.references session =
        (({ world with sessions := (world.sessions.retainMedia session).1 }).record
          (.retained session)).references := by
      funext other
      unfold retainReferences
      rw [Function.update_apply]
      simp only [references, record, unreleasedClaims, retainedClaims]
      grind
    rw [hrefs] at hsound
    refine ⟨hsound, ?_, fun other => ?_, fun other => ?_, ?_, fun lease hmem => ?_, fun other => ?_,
      h.alone, h.own⟩
    · have hzero := h.none_zero
      simp only [references, record, unreleasedClaims, retainedClaims] at hzero ⊢
      rw [tally, if_neg hsess]
      exact hzero
    · simp only [if_true, record, retainedClaims, count_cons, store.injEq, h.retained other]
      grind
    · rw [if_pos rfl, count_cons_of_ne (by nofun)]
      exact h.unreleased other
    · rw [if_pos rfl, countP_cons_of_neg _ id]
      exact h.clearing
    · rw [if_pos rfl, mem_cons] at hmem
      exact h.read lease (hmem.resolve_left nofun)
    · rw [if_pos rfl, countP_cons_of_neg _ id]
      exact h.underWay other
  · rename_i href
    rw [if_neg href] at hsound
    exact h.withSessions hsound

lemma Balanced.storeLease (h : world.Balanced (.store session ::ₘ all))
    (hlease : lease.RemoteOf session) (hfree : releasesClearing world.history = 0) :
    (world.storeLease lease).Balanced all := by
  have hretained := h.retained session
  rw [count_cons_self] at hretained
  have hrefs : (world.storeLease lease).references = world.references := by
    funext other
    simp only [references, RemoteLeaseWorld.storeLease, record, unreleasedClaims, retainedClaims, hlease.2]
    grind
  have hclearing := h.clearing
  rw [countP_cons_of_neg _ id] at hclearing
  refine ⟨?_, ?_, fun other => ?_, fun other => ?_, hclearing, fun found hmem => ?_, fun other => ?_,
    h.alone, h.own⟩
  · rw [hrefs]
    exact h.sound
  · rw [hrefs]
    exact h.none_zero
  · have hother := h.retained other
    simp only [RemoteLeaseWorld.storeLease, record, retainedClaims, count_cons,
      store.injEq, hlease.2] at hother ⊢
    grind
  · have hother := h.unreleased other
    rw [count_cons_of_ne (by nofun)] at hother
    simp only [RemoteLeaseWorld.storeLease, record, unreleasedClaims, replacedLeases, hother]
    grind
  · -- nobody is about to clear
    rw [hfree, eq_comm, countP_eq_zero] at hclearing
    exact absurd trivial (hclearing _ hmem)
  · have hother := h.underWay other
    rwa [countP_cons_of_neg _ id] at hother

/-- A release reads the slot: it finds its lease, or its session has no claim. -/
lemma Balanced.readLease (h : world.Balanced all) (session : UInt64)
    (htimely : ∀ event, (world.readLease session).2.history = event :: world.history →
      event.Timely world.history) :
    match (world.readLease session).1 with
    | some lease => lease.RemoteOf session ∧
      (world.readLease session).2.Balanced (.clear lease ::ₘ all)
    | none => (world.readLease session).2.Balanced all := by
  unfold RemoteLeaseWorld.readLease at htimely ⊢
  by_cases hslot : world.remoteLease.RemoteOf session
  · rw [if_pos hslot] at htimely ⊢
    have hfree : releasesUnderWay world.remoteLease.token world.history = 0 := htimely _ rfl
    refine ⟨hslot, h.sound, h.none_zero, fun other => ?_, fun other => ?_, ?_, fun lease hmem => ?_,
      fun other => ?_, fun other => ?_, h.own⟩
    · rw [count_cons_of_ne (by nofun)]
      exact h.retained other
    · rw [count_cons_of_ne (by nofun)]
      exact h.unreleased other
    · simp only [record, releasesClearing]
      rw [countP_cons_of_pos _ trivial, h.clearing]
    · rw [mem_cons] at hmem
      obtain hmine | hmem := hmem
      · obtain rfl := clear.inj hmine
        exact ⟨rfl, hslot.1⟩
      · exact h.read lease hmem
    · simp only [record, releasesUnderWay, countP_cons, h.underWay other]
    · have hother := h.alone other
      simp only [record, releasesUnderWay]
      grind
  · rw [if_neg hslot] at htimely ⊢
    obtain ⟨hfree, hrepl⟩ : releasesUnderWay session world.history = 0 ∧
        replacedLeases session world.history = 0 := htimely _ rfl
    have hnone : unreleasedClaims session world.history = 0 := by
      have hdrops : all.count (.drop session) = 0 := by
        rw [h.underWay session, countP_eq_zero] at hfree
        exact count_eq_zero.mpr fun hmem => hfree _ hmem rfl
      rw [h.unreleased session, hrepl, hdrops, tally, if_neg hslot]
    have hunreleased : ∀ other, unreleasedClaims other (.missed session :: world.history) =
        unreleasedClaims other world.history := by
      intro other
      simp only [unreleasedClaims]
      grind
    have hrefs : (world.record (.missed session)).references = world.references := by
      funext other
      simp only [references, record, hunreleased, retainedClaims]
    refine ⟨?_, ?_, h.retained, fun other => ?_, h.clearing, h.read, h.underWay, h.alone, h.own⟩
    · rw [hrefs]
      exact h.sound
    · rw [hrefs]
      exact h.none_zero
    · exact (hunreleased other).trans (h.unreleased other)

lemma Balanced.clearLease (h : world.Balanced (.clear lease ::ₘ all)) :
    (world.clearLease lease).Balanced (.drop lease.token ::ₘ all) := by
  obtain ⟨hslot, howner⟩ := h.read lease (mem_cons_self _ _)
  have hclearing := h.clearing
  rw [countP_cons_of_pos _ trivial] at hclearing
  refine ⟨h.sound, h.none_zero, fun other => ?_, fun other => ?_, ?_, fun found hmem => ?_,
    fun other => ?_, h.alone, fun clear hmem => ?_⟩
  · have hother := h.retained other
    rw [count_cons_of_ne (by nofun)] at hother ⊢
    exact hother
  · have hother := h.unreleased other
    simp only [RemoteLeaseWorld.clearLease, record, unreleasedClaims, replacedLeases,
      PlayerOwnershipLease.zero, count_cons, drop.injEq, hother, hslot]
    grind
  · simp only [RemoteLeaseWorld.clearLease, record, releasesClearing]
    rw [countP_cons_of_neg _ id, hclearing]
    rfl
  · -- a second release of the session would be under way
    rw [mem_cons] at hmem
    have hmem : .clear found ∈ all := hmem.resolve_left nofun
    obtain ⟨hsame, -⟩ := h.read found (mem_cons_of_mem hmem)
    have htwo := h.underWay lease.token
    rw [countP_cons_of_pos (p := RemoteLeaseDuty.Releases lease.token) _ rfl] at htwo
    have hone := h.alone lease.token
    have hother : 0 < all.countP (RemoteLeaseDuty.Releases lease.token) :=
      countP_pos_of_mem hmem (congrArg _ (hsame.symm.trans hslot))
    omega
  · have hother := h.underWay other
    simp only [countP_cons] at hother ⊢
    exact hother
  · obtain rfl | hmem := List.mem_cons.mp hmem
    · exact .inr hslot
    · exact h.own clear hmem

lemma Balanced.releaseSession (h : world.Balanced (.drop session ::ₘ all)) :
    (world.releaseSession session).Balanced all := by
  have hunreleased := h.unreleased session
  rw [count_cons_self] at hunreleased
  have hpos : 0 < world.references session := by
    unfold references
    omega
  have hsess : session ≠ 0 := by
    rintro rfl
    rw [h.none_zero] at hpos
    exact lt_irrefl 0 hpos
  have hsound := h.sound.releaseMedia session
  rw [if_pos (releaseMedia_granted h.sound hsess hpos)] at hsound
  have hrefs : releaseReferences world.references session =
      (world.releaseSession session).references := by
    funext other
    unfold releaseReferences
    rw [Function.update_apply]
    simp only [references, RemoteLeaseWorld.releaseSession, record, unreleasedClaims, retainedClaims]
    grind
  rw [hrefs] at hsound
  refine ⟨hsound, ?_, fun other => ?_, fun other => ?_, ?_, fun found hmem => ?_, fun other => ?_,
    fun other => ?_, h.own⟩
  · have hzero := h.none_zero
    simp only [references, RemoteLeaseWorld.releaseSession, record, unreleasedClaims, retainedClaims] at hzero ⊢
    omega
  · have hother := h.retained other
    rwa [count_cons_of_ne (by nofun)] at hother
  · have hother := h.unreleased other
    simp only [RemoteLeaseWorld.releaseSession, record, unreleasedClaims, replacedLeases,
      count_cons, drop.injEq] at hother ⊢
    grind
  · have hclearing := h.clearing
    rwa [countP_cons_of_neg _ id] at hclearing
  · exact h.read found (mem_cons_of_mem hmem)
  · have hother := h.underWay other
    rw [countP_cons] at hother
    simp only [RemoteLeaseWorld.releaseSession, record, releasesUnderWay, hother]
    exact Nat.add_sub_cancel _ _
  · have hother := h.alone other
    simp only [RemoteLeaseWorld.releaseSession, record, releasesUnderWay]
    omega

/-- What a section does, it does in time. -/
def TimelyChange (world world' : RemoteLeaseWorld) : Prop :=
  ∀ event, world'.history = event :: world.history → event.Timely world.history

end RemoteLeaseWorld

/-! ## The programs -/

section Programs

variable {α : Type} {held : Multiset RemoteLeaseDuty} {session : UInt64}
  {lease : PlayerOwnershipLease}

/-- A program that ends with `Post` of its result and its duties. -/
abbrev RemoteLeaseHolds (Post : α → Multiset RemoteLeaseDuty → Prop)
    (program : RemoteLeaseThread α) (held : Multiset RemoteLeaseDuty) : Prop :=
  Interleaving.Holds Balanced TimelyChange Post program held

lemma remoteLeaseHolds_abort :
    RemoteLeaseHolds (fun _ held' => held' = held) (remoteClaimAbort lease) held :=
  modify fun _ _ h => h.withOwnership _

lemma remoteLeaseHolds_sessionCall {effect : AirPlaySessionManager → AirPlaySessionManager}
    (heffect : ∀ manager references, manager.Sound references →
      (effect manager).Sound references) :
    RemoteLeaseHolds (fun _ held' => held' = held) (sessionCall effect) held :=
  modify fun world _ h => h.withSessions (heffect _ world.references h.sound)

lemma claimPlayer_remoteOf {world : RemoteLeaseWorld}
    (h : (world.claimPlayer session).1 = some lease) : lease.RemoteOf session := by
  unfold RemoteLeaseWorld.claimPlayer playerOwnershipClaim at h
  obtain rfl := Option.some.inj h
  exact ⟨rfl, rfl⟩

lemma remoteLeaseHolds_claimed (hlease : lease.RemoteOf session) :
    RemoteLeaseHolds (fun _ held' => held' = 0) (integrationRemoteClaimed session lease) 0 := by
  refine answer.seq fun ready => ite
    (fun _ => remoteLeaseHolds_abort.seq fun _ => pure rfl) fun _ => ?_
  refine bind (P := fun retained held' =>
    held' = if retained then {.store session} else 0) ?_ fun retained held' hheld => ?_
  · refine atomic fun world others h _ => ⟨_, ?_, rfl⟩
    have hbal := h.retainSession session
    rw [zero_add] at hbal
    split_ifs at hbal with hretained
    · rw [if_pos hretained, singleton_add]
      exact hbal
    · rw [if_neg hretained, zero_add]
      exact hbal
  · cases retained with
    | false =>
      rw [hheld]
      exact remoteLeaseHolds_abort.seq fun _ => pure rfl
    | true =>
      rw [hheld]
      refine bind (P := fun _ held' => held' = 0) ?_ fun _ _ hdone => pure hdone
      intro world others h htimely
      refine ⟨0, ?_, rfl⟩
      rw [zero_add]
      exact h.storeLease hlease (htimely _ rfl)

/-- **`integration_remote_claim`** ends with no duty. -/
lemma remoteLeaseHolds_claim (session : UInt64) :
    RemoteLeaseHolds (fun _ held' => held' = 0) (integrationRemoteClaim session) 0 := by
  refine answer.seq fun begun => ite (fun _ => pure rfl) fun _ => ?_
  refine bind (P := fun granted held' =>
    held' = 0 ∧ ∀ lease ∈ granted, lease.RemoteOf session) ?_ fun granted held' hgrant => ?_
  · exact atomic fun world others h _ => ⟨0, h.withOwnership _, rfl,
      fun lease hlease => claimPlayer_remoteOf hlease⟩
  rw [hgrant.1]
  cases granted with
  | none => exact pure rfl
  | some lease => exact remoteLeaseHolds_claimed (hgrant.2 lease rfl)

/-- **`integration_remote_release`** ends with no duty. -/
lemma remoteLeaseHolds_release (session : UInt64) :
    RemoteLeaseHolds (fun _ held' => held' = 0) (integrationRemoteRelease session) 0 := by
  refine bind (P := fun found held' => match found with
    | some lease => lease.RemoteOf session ∧ held' = {.clear lease}
    | none => held' = 0) ?_ fun found held' hfound => ?_
  · refine atomic fun world others h htimely => ?_
    rw [zero_add] at h
    have hread := h.readLease session htimely
    cases hfound : (world.readLease session).1 with
    | none =>
      rw [hfound] at hread
      refine ⟨0, ?_, rfl⟩
      rw [zero_add]
      exact hread
    | some lease =>
      rw [hfound] at hread
      refine ⟨{.clear lease}, ?_, hread.1, rfl⟩
      exact hread.2
  · cases found with
    | none => exact pure hfound
    | some lease =>
      obtain ⟨hlease, hheld⟩ := hfound
      rw [hheld]
      refine answer.seq fun _ =>
        bind (P := fun _ held' => held' = {.drop session}) ?_ fun _ held' hclear => ?_
      · intro world others h _
        have hbal := h.clearLease
        rw [hlease.2] at hbal
        exact ⟨{.drop session}, hbal, pure rfl⟩
      · rw [hclear]
        intro world others h _
        refine ⟨0, ?_, rfl⟩
        rw [zero_add]
        exact h.releaseSession

lemma RemoteLeaseCall.holds_program (call : RemoteLeaseCall) :
    RemoteLeaseHolds (fun _ held' => held' = 0) call.program 0 := by
  cases call with
  | claim session =>
    exact (remoteLeaseHolds_claim session).bind fun _ _ hheld => pure hheld
  | release session => exact remoteLeaseHolds_release session
  | observe connectionId request =>
    exact remoteLeaseHolds_sessionCall fun _ _ h => h.observe connectionId request
  | close connectionId => exact remoteLeaseHolds_sessionCall fun _ _ h => h.close connectionId
  | bindClient connectionId clientId =>
    exact remoteLeaseHolds_sessionCall fun _ _ h => h.bindClient connectionId clientId
  | markTransportTeardown connectionId =>
    exact remoteLeaseHolds_sessionCall fun _ _ h => h.markTransportTeardown connectionId
  | claimPlayer owner token => exact modify fun _ _ h => h.withOwnership _

end Programs

/-! ## Runs -/

/-- A move whose section is in time. -/
def TimelyMove (p : Pool RemoteLeaseWorld Unit RemoteLeaseCall) (_ : Label RemoteLeaseCall)
    (p' : Pool RemoteLeaseWorld Unit RemoteLeaseCall) : Prop :=
  p.state.TimelyChange p'.state

instance (world world' : RemoteLeaseWorld) : Decidable (world.TimelyChange world') :=
  match hhistory : world'.history with
  | [] => isTrue fun event hevent => by rw [hhistory] at hevent; nomatch hevent
  | event :: history =>
    decidable_of_iff (history = world.history → event.Timely world.history) (by
      unfold TimelyChange
      rw [hhistory]
      constructor
      · rintro htimely event hevent
        rw [List.cons.injEq] at hevent
        rw [← hevent.1]
        exact htimely hevent.2
      · exact fun htimely hsame => htimely event (congrArg _ hsame))

instance (p p' : Pool RemoteLeaseWorld Unit RemoteLeaseCall) (label : Label RemoteLeaseCall) :
    Decidable (TimelyMove p label p') :=
  inferInstanceAs (Decidable (p.state.TimelyChange p'.state))

/-- The media references of the logical sessions are those of the claims not yet released, once the
claims and releases have returned. -/
def ReferencesBalanced (p : Pool RemoteLeaseWorld Unit RemoteLeaseCall) : Prop :=
  p.Quiescent → p.state.sessions.Ledger fun session => unreleasedClaims session p.state.history

open Pool in
/-- **The lease balance.**  In a run of timely moves, no release clears a lease other than the one it
read, and the logical sessions have the references of the claims not yet released; while claims are
under way, also those of the claims that are about to store their lease. -/
theorem integrationRemote_leaseBalance (ownership : PlayerOwnership)
    {p : Pool RemoteLeaseWorld Unit RemoteLeaseCall}
    (hrun : Run RemoteLeaseCall.program TimelyMove (initial (.initial ownership)) p) :
    ClearsItsOwn p.state.history ∧ ReferencesBalanced p ∧
      p.state.sessions.Ledger fun session =>
        unreleasedClaims session p.state.history + retainedClaims session p.state.history := by
  have hheld : p.Held Balanced fun _ => TimelyChange := by
    have hpermits : ∀ p label p', TimelyMove p label p' →
        p.Permits (fun _ => True) (fun _ => TimelyChange) label p' :=
      fun _ _ _ hmove => ⟨fun _ _ _ => trivial, fun _ _ _ _ _ => hmove⟩
    exact Held.of_run hpermits (fun call _ _ => call.holds_program)
      (Held.initial (balanced_initial ownership)) hrun
  obtain ⟨all, hbalanced⟩ := hheld.exists_inv
  refine ⟨hbalanced.own, fun hquiescent => ?_, hbalanced.sound.toLedger⟩
  have hzero := hheld.of_quiescent hquiescent
  have hledger := hzero.sound.toLedger
  have hreferences : p.state.references = fun session => unreleasedClaims session p.state.history := by
    funext session
    rw [references, hzero.retained session, Multiset.count_zero, add_zero]
  rwa [hreferences] at hledger

/-- A connection names a session. -/
def sessionRequest (appleSessionId : String) : AirPlayRtspRequest :=
  AirPlaySessionManager.plainRequest "HTTP/1.1"
    [⟨cstring "X-Apple-Session-ID", cstring appleSessionId⟩]

/-- Two connections, each with a session of its own. -/
def twoSessionsMoves : List (Label RemoteLeaseCall) :=
  [.call 0 (.observe 1 (sessionRequest "a")), .run 0 true, .ret 0,
    .call 0 (.observe 2 (sessionRequest "b")), .run 0 true, .ret 0]

/-- Their ids. -/
def sessionA : UInt64 := 0x8000000000000000

def sessionB : UInt64 := 0x8000000000000001

/-- A claim of a session that is granted. -/
def claimMoves (id : ℕ) (session : UInt64) : List (Label RemoteLeaseCall) :=
  .call id (.claim session) :: List.replicate 5 (.run id true) ++ [.ret id]

/-- The first session is claimed and released, then the second is claimed, and the first asks in
vain. -/
def timelyMoves : List (Label RemoteLeaseCall) :=
  twoSessionsMoves ++ claimMoves 0 sessionA ++
    .call 0 (.release sessionA) :: List.replicate 4 (.run 0 true) ++ [.ret 0] ++
    claimMoves 0 sessionB ++ [.call 1 (.release sessionA), .run 1 true, .ret 1]

lemma timely_run : ((Pool.initial (.initial .initial)).checkedSteps RemoteLeaseCall.program
      TimelyMove timelyMoves).map (fun p => clearedLeases p.state.history) =
    some [(⟨.airplayVideo, sessionA, 1⟩, ⟨.airplayVideo, sessionA, 1⟩)] := by
  decide +kernel

theorem integrationRemote_leaseBalance_timely :
    ∃ p, (Pool.initial (.initial .initial)).checkedSteps RemoteLeaseCall.program TimelyMove
        timelyMoves = some p ∧
      clearedLeases p.state.history ≠ [] ∧ ClearsItsOwn p.state.history ∧ ReferencesBalanced p := by
  obtain ⟨p, hsteps, hcleared⟩ := Option.map_eq_some_iff.mp timely_run
  obtain ⟨hown, hreferences, -⟩ :=
    integrationRemote_leaseBalance .initial (Pool.Run.of_checkedSteps hsteps)
  exact ⟨p, hsteps, by rw [hcleared]; exact List.cons_ne_nil _ _, hown, hreferences⟩

/-- The first session is claimed and its release has read the lease when the second session is claimed;
then the release goes on. -/
def disturbedMoves : List (Label RemoteLeaseCall) :=
  twoSessionsMoves ++ claimMoves 0 sessionA ++
    .call 0 (.release sessionA) :: List.replicate 2 (.run 0 true) ++ claimMoves 1 sessionB ++
    List.replicate 2 (.run 0 true) ++ [.ret 0]

lemma disturbed_run : ((Pool.initial (.initial .initial)).steps RemoteLeaseCall.program
      disturbedMoves).map (fun p => clearedLeases p.state.history) =
    some [(⟨.airplayVideo, sessionA, 1⟩, ⟨.airplayVideo, sessionB, 2⟩)] := by
  decide +kernel

/-- The release clears the lease of the second session. -/
theorem integrationRemote_leaseLost :
    ¬ ∀ p, Pool.Run RemoteLeaseCall.program (fun _ _ _ => True) (.initial (.initial .initial)) p →
      ClearsItsOwn p.state.history ∧ ReferencesBalanced p := by
  intro hbalance
  obtain ⟨p, hsteps, hcleared⟩ := Option.map_eq_some_iff.mp disturbed_run
  obtain ⟨hown, -⟩ := hbalance p (Pool.Run.of_steps hsteps fun _ _ => trivial)
  rw [ClearsItsOwn, hcleared] at hown
  exact absurd (hown _ (List.mem_singleton_self _)) (by decide)

end NXCast
