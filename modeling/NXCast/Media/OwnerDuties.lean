import Mathlib.Algebra.Order.Group.Multiset
import Mathlib.Data.Multiset.UnionInter
import NXCast.Media.GenerationGuard

/-!
# Claims of the player, and who answers for them

Between its locked sections a `/play` is answerable for a claim it has made and not recorded yet,
and whoever ends a playback for the claim that was recorded.  `Balanced` says that recorded, held
and released claims together are the granted ones; the lemmas say what becomes of it when a
callback is recorded, a generation ends, a claim is recorded or a `/play` goes on with the owner of
its session.
-/

namespace NXCast

open Interleaving Multiset

/-! ## Duties -/

/-- Where the module is, with the claim it records. -/
abbrev RemoteVideoControl := RemoteVideoPlace × Option ℕ

/-- What a call in progress is answerable for. -/
inductive OwnerDuty where
  /-- To give back a claim. -/
  | claim (number : ℕ) (session : UInt64)
  /-- To complete the `/play` that made the generation. -/
  | ticket (change : ℕ)
  /-- To go on with the owner of its session. -/
  | continuing (control : RemoteVideoControl)

open OwnerDuty

namespace OwnerDuty

/-- The claim to give back. -/
def asClaim : OwnerDuty → Option (Option ℕ × UInt64)
  | claim number session => some (some number, session)
  | _ => none

/-- The generation to complete. -/
def asTicket : OwnerDuty → Option ℕ
  | ticket change => some change
  | _ => none

/-- The owner to go on with. -/
def asControl : OwnerDuty → Option RemoteVideoControl
  | continuing control => some control
  | _ => none

end OwnerDuty

/-- The duty to give back what was recorded. -/
def ownerClaim (owner : Option ℕ) (session : UInt64) : Multiset OwnerDuty :=
  match owner with
  | some number => {.claim number session}
  | none => 0

variable (number : ℕ)

@[simp] lemma ownerClaim_some (session : UInt64) :
    ownerClaim (some number) session = {.claim number session} := rfl

@[simp] lemma ownerClaim_none (session : UInt64) : ownerClaim none session = 0 := rfl

@[simp] lemma asTicket_ownerClaim (owner : Option ℕ) (session : UInt64) :
    (ownerClaim owner session).filterMap asTicket = 0 := by
  cases owner <;> rfl

@[simp] lemma asControl_ownerClaim (owner : Option ℕ) (session : UInt64) :
    (ownerClaim owner session).filterMap asControl = 0 := by
  cases owner <;> rfl

section Cons

variable (all : Multiset OwnerDuty)

@[simp] lemma asClaim_claim (session : UInt64) :
    (claim number session ::ₘ all).filterMap asClaim =
      (some number, session) ::ₘ all.filterMap asClaim :=
  filterMap_cons_some _ _ _ rfl

@[simp] lemma asClaim_ticket (change : ℕ) :
    (ticket change ::ₘ all).filterMap asClaim = all.filterMap asClaim :=
  filterMap_cons_none _ _ rfl

variable (control : RemoteVideoControl)

@[simp] lemma asClaim_continuing :
    (continuing control ::ₘ all).filterMap asClaim = all.filterMap asClaim :=
  filterMap_cons_none _ _ rfl

@[simp] lemma asTicket_claim (session : UInt64) :
    (claim number session ::ₘ all).filterMap asTicket = all.filterMap asTicket :=
  filterMap_cons_none _ _ rfl

@[simp] lemma asTicket_ticket (change : ℕ) :
    (ticket change ::ₘ all).filterMap asTicket = change ::ₘ all.filterMap asTicket :=
  filterMap_cons_some _ _ _ rfl

@[simp] lemma asTicket_continuing :
    (continuing control ::ₘ all).filterMap asTicket = all.filterMap asTicket :=
  filterMap_cons_none _ _ rfl

@[simp] lemma asControl_claim (session : UInt64) :
    (claim number session ::ₘ all).filterMap asControl = all.filterMap asControl :=
  filterMap_cons_none _ _ rfl

@[simp] lemma asControl_ticket (change : ℕ) :
    (ticket change ::ₘ all).filterMap asControl = all.filterMap asControl :=
  filterMap_cons_none _ _ rfl

@[simp] lemma asControl_continuing :
    (continuing control ::ₘ all).filterMap asControl = control ::ₘ all.filterMap asControl :=
  filterMap_cons_some _ _ _ rfl

end Cons

/-- The claims that were granted, each with its number. -/
def numberedClaims (trace : List RemoteVideoEvent) : List (Option ℕ × UInt64) :=
  (grantedClaims trace).mapIdx fun number session => (some number, session)

lemma nodup_numberedClaims (trace : List RemoteVideoEvent) : (numberedClaims trace).Nodup := by
  rw [numberedClaims, List.nodup_iff_injective_getElem]
  intro i j hij
  simp only [List.getElem_mapIdx, Prod.mk.injEq, Option.some.injEq] at hij
  exact Fin.ext hij.1

lemma mem_numberedClaims {trace : List RemoteVideoEvent} {entry : Option ℕ × UInt64} :
    entry ∈ numberedClaims trace ↔
      ∃ number, entry.1 = some number ∧ (grantedClaims trace)[number]? = some entry.2 := by
  rw [numberedClaims, List.mem_mapIdx]
  constructor
  · rintro ⟨number, hlt, hentry⟩
    subst hentry
    exact ⟨number, rfl, List.getElem?_eq_getElem hlt⟩
  · rintro ⟨number, hnumber, hsess⟩
    obtain ⟨hlt, hget⟩ := List.getElem?_eq_some_iff.mp hsess
    exact ⟨number, hlt, Prod.ext hnumber.symm hget⟩

/-! ## The invariant -/

namespace RemoteVideoWorld

variable {ν : Type} {config : AirPlayRemoteVideoConfig ν} {world world' : RemoteVideoWorld ν}
  {all : Multiset OwnerDuty}

/-- Where the module is, with the claim it records. -/
def control (world : RemoteVideoWorld ν) : RemoteVideoControl :=
  (world.remote.place, world.remote.ownerClaimed)

/-- The claims that are recorded, held and released are the granted ones; at most one call may
complete a generation, and the current one only where no owner is recorded; a call that goes on
with the owner finds it. -/
structure Balanced (world : RemoteVideoWorld ν) (all : Multiset OwnerDuty) : Prop where
  guarded : world.Guarded
  claims : (ownerClaim world.remote.ownerClaimed world.remote.ownerSessionId + all).filterMap
    OwnerDuty.asClaim + (releasedClaims world.trace : Multiset (Option ℕ × UInt64)) =
    (numberedClaims world.trace : Multiset (Option ℕ × UInt64))
  tickets : (all.filterMap OwnerDuty.asTicket).Nodup
  current : ∀ change ∈ all.filterMap OwnerDuty.asTicket, change ≤ world.changes ∧
    (change = world.changes →
      world.remote.state ≠ .pendingHls ∧ world.remote.ownerClaimed = none)
  continues : ∀ control ∈ all.filterMap OwnerDuty.asControl, control = world.control
  counted : (all.filterMap OwnerDuty.asControl).card = world.continuing
  single : world.continuing ≤ 1

/-- What a section of a call that began in `start` leaves alone: fewer than 2³² generations pass
during the call, and while a `/play` goes on with the owner of its session nobody else changes
where the module is. -/
def Undisturbed (start world world' : RemoteVideoWorld ν) : Prop :=
  start.changes ≤ world.changes ∧ world'.changes < start.changes + 2 ^ 32 ∧
    (world.continuing = 0 ∨ world'.continuing < world.continuing ∨
      world'.control = world.control)

lemma Balanced.initial (config : AirPlayRemoteVideoConfig ν) (player : AirPlayRemoteVideoSnapshot)
    (controlPort : UInt16) : (RemoteVideoWorld.initial config player controlPort).Balanced 0 where
  guarded := .initial config player controlPort
  claims := rfl
  tickets := nodup_zero
  current _ hchg := absurd hchg (notMem_zero _)
  continues _ hctl := absurd hctl (notMem_zero _)
  counted := rfl
  single := Nat.zero_le 1

lemma Balanced.of_same (h : world.Balanced all) (hadv : world.Advances world')
    (hctl : world'.control = world.control) (hchg : world'.changes = world.changes)
    (hgrant : grantedClaims world'.trace = grantedClaims world.trace)
    (hrel : releasedClaims world'.trace = releasedClaims world.trace)
    (hcont : world'.continuing = world.continuing) : world'.Balanced all := by
  have hparts := hctl
  simp only [control, AirPlayRemoteVideo.place, Prod.mk.injEq, RemoteVideoPlace.mk.injEq] at hparts
  obtain ⟨⟨hstate, hsess, -⟩, howner⟩ := hparts
  constructor
  · exact hadv.1 h.guarded
  · rw [numberedClaims, howner, hsess, hgrant, hrel]
    exact h.claims
  · exact h.tickets
  · rw [hchg, hstate, howner]
    exact h.current
  · rw [hctl]
    exact h.continues
  · rw [hcont]
    exact h.counted
  · rw [hcont]
    exact h.single

lemma Balanced.asControl_eq_zero (h : world.Balanced all) (hfree : world.continuing = 0) :
    all.filterMap asControl = 0 := by
  rw [← card_eq_zero, h.counted, hfree]

variable {start : RemoteVideoWorld ν}

/-- A move of its own is possible only while nobody goes on with the owner. -/
lemma Undisturbed.free (h : start.Undisturbed world world')
    (hcont : world.continuing ≤ world'.continuing) (hctl : world'.control ≠ world.control) :
    world.continuing = 0 := by
  rcases h.2.2 with hfree | hless | hsame
  · exact hfree
  · omega
  · exact absurd hsame hctl

lemma generation_succ_ne (generation : UInt32) : generation + 1 ≠ generation := by
  intro heq
  have hnat := congrArg UInt32.toNat heq
  rw [UInt32.toNat_add, UInt32.toNat_one] at hnat
  omega

lemma control_nextGeneration_ne (h : world'.remote.generation = world.remote.generation) :
    world'.nextGeneration.control ≠ world.control := by
  intro hctl
  have hnext : world'.remote.generation + 1 = world.remote.generation :=
    congrArg (fun control => control.1.generation) hctl
  rw [h] at hnext
  exact generation_succ_ne _ hnext

variable {remote : AirPlayRemoteVideo ν}

/-- The generation ends, and no owner is recorded: whoever ends it answers for the claim. -/
lemma Balanced.replace (h : world.Balanced all) (hfree : world.continuing = 0)
    (hguarded : ({ world with remote := remote }.nextGeneration).Guarded)
    (howner : remote.ownerClaimed = none) :
    ({ world with remote := remote }.nextGeneration).Balanced
      (ownerClaim world.remote.ownerClaimed world.remote.ownerSessionId + all) where
  guarded := hguarded
  claims := by
    show (ownerClaim remote.ownerClaimed _ + _).filterMap asClaim + _ = _
    rw [howner, ownerClaim_none, zero_add]
    exact h.claims
  tickets := by
    rw [filterMap_add, asTicket_ownerClaim, zero_add]
    exact h.tickets
  current change hchg := by
    rw [filterMap_add, asTicket_ownerClaim, zero_add] at hchg
    have hle := (h.current change hchg).1
    refine ⟨Nat.le_succ_of_le hle, fun heq => ?_⟩
    have heq : change = world.changes + 1 := heq
    omega
  continues control hctl := by
    rw [filterMap_add, asControl_ownerClaim, zero_add, h.asControl_eq_zero hfree] at hctl
    exact absurd hctl (notMem_zero _)
  counted := by
    rw [filterMap_add, asControl_ownerClaim, zero_add]
    exact h.counted
  single := h.single

lemma Balanced.clear (config : AirPlayRemoteVideoConfig ν) (h : world.Balanced all) (hfree : world.continuing = 0) :
    (world.clearOwner config).nextGeneration.Balanced
      (ownerClaim world.remote.ownerClaimed world.remote.ownerSessionId + all) :=
  h.replace hfree h.guarded.clearOwner.nextGeneration rfl

/-! ### Callbacks -/

section Record

variable (handler : RemoteVideoHandler) (session : UInt64) (generation : Option UInt32)

lemma grantedClaims_record (op : RemoteVideoOp) (h : op ≠ .claimOwner true) :
    grantedClaims (world.record handler session generation op).trace =
      grantedClaims world.trace := by
  have hnone : grantedClaims [⟨op, handler, session, generation, world.remote.place⟩] = [] := by
    unfold grantedClaims
    rw [List.filterMap_cons_none, List.filterMap_nil]
    dsimp only
    split
    · exact absurd rfl h
    · rfl
  show grantedClaims (world.trace ++ _) = _
  unfold grantedClaims at hnone ⊢
  rw [List.filterMap_append, hnone, List.append_nil]

lemma releasedClaims_record (op : RemoteVideoOp) (h : ∀ claim, op ≠ .releaseOwner claim) :
    releasedClaims (world.record handler session generation op).trace =
      releasedClaims world.trace := by
  have hnone : releasedClaims [⟨op, handler, session, generation, world.remote.place⟩] = [] := by
    unfold releasedClaims
    rw [List.filterMap_cons_none, List.filterMap_nil]
    dsimp only
    split
    · exact absurd rfl (h _)
    · rfl
  show releasedClaims (world.trace ++ _) = _
  unfold releasedClaims at hnone ⊢
  rw [List.filterMap_append, hnone, List.append_nil]

lemma numberedClaims_record_claim :
    numberedClaims (world.record handler session generation (.claimOwner true)).trace =
      numberedClaims world.trace ++ [(some (grantedClaims world.trace).length, session)] := by
  have hgrant : grantedClaims (world.record handler session generation (.claimOwner true)).trace =
      grantedClaims world.trace ++ [session] := List.filterMap_append
  rw [numberedClaims, hgrant, List.mapIdx_concat]
  rfl

lemma releasedClaims_record_release (claim : Option ℕ) :
    releasedClaims (world.record handler session generation (.releaseOwner claim)).trace =
      releasedClaims world.trace ++ [(claim, session)] := List.filterMap_append

lemma Balanced.record (h : world.Balanced all) {op : RemoteVideoOp}
    (hadv : world.Advances (world.record handler session generation op))
    (hclaim : op ≠ .claimOwner true) (hrel : ∀ claim, op ≠ .releaseOwner claim) :
    (world.record handler session generation op).Balanced all :=
  h.of_same hadv rfl rfl (grantedClaims_record handler session generation op hclaim)
    (releasedClaims_record handler session generation op hrel) rfl

lemma Balanced.record_claim (h : world.Balanced all)
    (hadv : world.Advances (world.record handler session generation (.claimOwner true))) :
    (world.record handler session generation (.claimOwner true)).Balanced
      (.claim (grantedClaims world.trace).length session ::ₘ all) where
  guarded := hadv.1 h.guarded
  claims := by
    rw [numberedClaims_record_claim, ← coe_add, ← h.claims,
      releasedClaims_record handler session generation _ (by simp), add_cons,
      asClaim_claim, coe_singleton, ← singleton_add, add_assoc, add_comm]
    rfl
  tickets := by
    rw [asTicket_claim]
    exact h.tickets
  current change hchg := by
    rw [asTicket_claim] at hchg
    exact h.current change hchg
  continues control hctl := by
    rw [asControl_claim] at hctl
    exact h.continues control hctl
  counted := by
    rw [asControl_claim]
    exact h.counted
  single := h.single

lemma Balanced.record_release {number : ℕ} (h : world.Balanced (.claim number session ::ₘ all)) :
    (world.record handler session generation (.releaseOwner (some number))).Balanced all := by
  have hclaim := h.claims
  have htickets := h.tickets
  have hcur := h.current
  have hcontinues := h.continues
  have hcnt := h.counted
  rw [add_cons, asClaim_claim] at hclaim
  rw [asTicket_claim] at htickets hcur
  rw [asControl_claim] at hcontinues hcnt
  refine ⟨(RemoteVideo.advances_record handler session (.inr rfl) generation world).1 h.guarded, ?_,
    htickets, hcur, hcontinues, hcnt, h.single⟩
  rw [numberedClaims, grantedClaims_record handler session generation _ (by simp),
    releasedClaims_record_release, ← coe_add, coe_singleton]
  rw [← singleton_add, add_assoc, add_comm, add_assoc] at hclaim
  exact hclaim

end Record

/-! ### Starting a playback -/

variable {change : ℕ}

/-- A `/play` that records its claim in the generation it has made. -/
lemma Balanced.recordOwner {number : ℕ} {session : UInt64}
    (h : world.Balanced (.ticket change ::ₘ .claim number session ::ₘ all))
    (hfree : world.continuing = 0) (hact : world.remote.state = .active)
    (hsess : world.remote.ownerSessionId = session) (hchg : change = world.changes) :
    Balanced { world with
      remote := { world.remote with
        ownerClaimed := some number
        controlAttached := true } } all := by
  have hclaim := h.claims
  have htickets := h.tickets
  have hcur := h.current
  have hcontrols := h.asControl_eq_zero hfree
  rw [asTicket_ticket, asTicket_claim] at htickets hcur
  rw [asControl_ticket, asControl_claim] at hcontrols
  rw [nodup_cons] at htickets
  have howner := ((hcur change (mem_cons_self _ _)).2 hchg).2
  refine ⟨⟨absurd hact, h.guarded.idle, h.guarded.numbered,
    h.guarded.started⟩, ?_, htickets.2, fun other hother => ?_, fun control hctl => ?_, ?_,
    h.single⟩
  · rw [howner, ownerClaim_none, zero_add, asClaim_ticket] at hclaim
    show (ownerClaim (some number) world.remote.ownerSessionId + all).filterMap _ + _ = _
    rw [hsess, ownerClaim_some, singleton_add]
    exact hclaim
  · refine ⟨(hcur other (mem_cons_of_mem hother)).1, fun heq => ?_⟩
    rw [heq, ← hchg] at hother
    exact absurd hother htickets.1
  · rw [hcontrols] at hctl
    exact absurd hctl (notMem_zero _)
  · rw [hcontrols, card_zero]
    exact hfree.symm

/-- A `/play` that gives up its generation, or goes on without a claim. -/
lemma Balanced.dropTicket (h : world.Balanced (.ticket change ::ₘ all)) :
    world.Balanced all := by
  have hclaim := h.claims
  have htickets := h.tickets
  have hcur := h.current
  have hcontinues := h.continues
  have hcnt := h.counted
  rw [add_cons, asClaim_ticket] at hclaim
  rw [asTicket_ticket] at htickets hcur
  rw [asControl_ticket] at hcontinues hcnt
  exact ⟨h.guarded, hclaim, (nodup_cons.mp htickets).2,
    fun other hother => hcur other (mem_cons_of_mem hother), hcontinues, hcnt,
    h.single⟩

/-- A READY that claims the player for the pending play records its claim. -/
lemma Balanced.recordReady {number : ℕ} {session : UInt64}
    (h : world.Balanced (.claim number session ::ₘ all)) (hfree : world.continuing = 0)
    (hpend : world.remote.state = .pendingHls) (hsess : world.remote.ownerSessionId = session) :
    Balanced { world with
      remote := { world.remote with
        state := .active
        ownerClaimed := some number
        controlAttached := true } } all := by
  have hclaim := h.claims
  have htickets := h.tickets
  have hcur := h.current
  have hcontrols := h.asControl_eq_zero hfree
  rw [asTicket_claim] at htickets hcur
  rw [asControl_claim] at hcontrols
  have howner : world.remote.ownerClaimed = none := h.guarded.unclaimed (by rw [hpend]; decide)
  refine ⟨⟨absurd rfl, fun hidle => ?_, h.guarded.numbered,
    h.guarded.started⟩, ?_, htickets, fun other hother => ?_, fun control hctl => ?_, ?_,
    h.single⟩
  · cases hidle
  · rw [howner, ownerClaim_none, zero_add] at hclaim
    show (ownerClaim (some number) world.remote.ownerSessionId + all).filterMap _ + _ = _
    rw [hsess, ownerClaim_some, singleton_add]
    exact hclaim
  · refine ⟨(hcur other hother).1, fun heq => ?_⟩
    exact absurd hpend ((hcur other hother).2 heq).1
  · rw [hcontrols] at hctl
    exact absurd hctl (notMem_zero _)
  · rw [hcontrols, card_zero]
    exact hfree.symm

/-- A `/play` that goes on with the owner of its session: the owner is still there. -/
lemma Balanced.goOn {control : RemoteVideoControl}
    (h : world.Balanced (.continuing control ::ₘ all)) :
    world.control = control ∧ world.continuing = 1 ∧
      Balanced { world with
        continuing := world.continuing - 1
        remote := { world.remote with controlAttached := true } } all := by
  have hclaim := h.claims
  have htickets := h.tickets
  have hcur := h.current
  have hcontinues := h.continues
  have hcnt := h.counted
  rw [add_cons, asClaim_continuing] at hclaim
  rw [asTicket_continuing] at htickets hcur
  rw [asControl_continuing] at hcontinues hcnt
  rw [card_cons] at hcnt
  have hsingle := h.single
  refine ⟨(hcontinues control (mem_cons_self _ _)).symm, by omega,
    ⟨h.guarded.unclaimed, h.guarded.idle, h.guarded.numbered, h.guarded.started⟩, hclaim, htickets,
    hcur, fun other hother => hcontinues other (mem_cons_of_mem hother), ?_, ?_⟩
  · show _ = world.continuing - 1
    omega
  · show world.continuing - 1 ≤ 1
    omega

variable (h : world.Balanced all)

include h

/-- A `/play` of a URL may be completed in the generation it has made. -/
lemma Balanced.addTicket (hnew : ∀ change ∈ all.filterMap asTicket, change < world.changes)
    (hstate : world.remote.state ≠ .pendingHls) (howner : world.remote.ownerClaimed = none) :
    world.Balanced (.ticket world.changes ::ₘ all) where
  guarded := h.guarded
  claims := by
    rw [add_cons, asClaim_ticket]
    exact h.claims
  tickets := by
    rw [asTicket_ticket, nodup_cons]
    exact ⟨fun hmem => (hnew _ hmem).false, h.tickets⟩
  current change hchg := by
    rw [asTicket_ticket, mem_cons] at hchg
    rcases hchg with rfl | hold
    · exact ⟨le_rfl, fun _ => ⟨hstate, howner⟩⟩
    · exact h.current change hold
  continues control hctl := by
    rw [asControl_ticket] at hctl
    exact h.continues control hctl
  counted := by
    rw [asControl_ticket]
    exact h.counted
  single := h.single

/-- A `/play` goes on with the owner of its session, in a new generation. -/
lemma Balanced.reuse (hfree : world.continuing = 0)
    (hguarded : ({ world with remote := remote, continuing := 1 }.nextGeneration).Guarded)
    (howner : remote.ownerClaimed = world.remote.ownerClaimed)
    (hsess : remote.ownerSessionId = world.remote.ownerSessionId) :
    ({ world with remote := remote, continuing := 1 }.nextGeneration).Balanced
      (.continuing ({ world with remote := remote, continuing := 1 }.nextGeneration).control ::ₘ
        all) where
  guarded := hguarded
  claims := by
    rw [add_cons, asClaim_continuing]
    show (ownerClaim remote.ownerClaimed remote.ownerSessionId + all).filterMap _ + _ = _
    rw [howner, hsess]
    exact h.claims
  tickets := by
    rw [asTicket_continuing]
    exact h.tickets
  current change hchg := by
    rw [asTicket_continuing] at hchg
    have hle := (h.current change hchg).1
    refine ⟨Nat.le_succ_of_le hle, fun heq => ?_⟩
    have heq : change = world.changes + 1 := heq
    omega
  continues control hctl := by
    rw [asControl_continuing, h.asControl_eq_zero hfree, mem_cons] at hctl
    rcases hctl with hctl | hctl
    · exact hctl
    · exact absurd hctl (notMem_zero _)
  counted := by
    rw [asControl_continuing, h.asControl_eq_zero hfree]
    rfl
  single := le_rfl

/-- A refused `/play` leaves, in the generation it has made. -/
lemma Balanced.leave (howner : world.remote.ownerClaimed = none)
    (hfree : world.continuing = 0 ∨ (world.clearOwner config).control = world.control) :
    (world.clearOwner config).Balanced all where
  guarded := h.guarded.clearOwner
  claims := by
    have hclaim := h.claims
    rw [howner] at hclaim
    exact hclaim
  tickets := h.tickets
  current change hchg := ⟨(h.current change hchg).1, fun _ =>
    ⟨AirPlayRemoteVideoSessionState.noConfusion, rfl⟩⟩
  continues control hctl := by
    rcases hfree with hfree | hsame
    · rw [h.asControl_eq_zero hfree] at hctl
      exact absurd hctl (notMem_zero _)
    · rw [hsame]
      exact h.continues control hctl
  counted := h.counted
  single := h.single

/-- Within fewer than 2³² changes a generation tells how many there were. -/
lemma Balanced.change_eq (hcalm : start.Undisturbed world world') (hadv : world.changes ≤ world'.changes)
    (hafter : start.changes < change) (hle : change ≤ world.changes)
    (hgen : world.remote.generation = UInt32.ofNat change) : change = world.changes := by
  have hbound := hcalm.2.1
  rw [h.guarded.numbered] at hgen
  have hnat := congrArg UInt32.toNat hgen
  rw [UInt32.toNat_ofNat', UInt32.toNat_ofNat'] at hnat
  omega

end RemoteVideoWorld

end NXCast
