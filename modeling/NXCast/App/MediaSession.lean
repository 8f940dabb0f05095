import NXCast.Player.Ownership

/-!
# The media session machine

`protocolMediaSessionTransition` is `protocol_media_session_transition` of
`protocol_media_session.c`.  Only `claimed`, `released` and `reset` move the lease: a claim
to the new lease if its generation is newer, a release or a reset to no lease at all
(`lease_transition`).
-/

namespace NXCast

/-- `ProtocolMediaSessionLifecycle` -/
inductive ProtocolMediaSessionLifecycle where
  | idle
  | preparing
  | loading
  | active
  | stopping
  | failed
deriving DecidableEq, Repr

/-- `ProtocolMediaPlaybackState` -/
inductive ProtocolMediaPlaybackState where
  | unknown
  | playing
  | paused
deriving DecidableEq, Repr

/-- `ProtocolMediaControlState` -/
inductive ProtocolMediaControlState where
  | unknown
  | attached
  | detached
deriving DecidableEq, Repr

/-- `ProtocolMediaEventKind` -/
inductive ProtocolMediaEventKind where
  | claimed
  | loadRequested
  | active
  | playing
  | paused
  | controlAttached
  | controlDetached
  | stopRequested
  | ended
  | failed
  | released
  | reset
deriving DecidableEq, Repr

/-- `ProtocolMediaEvent` -/
structure ProtocolMediaEvent where
  kind : ProtocolMediaEventKind
  lease : PlayerOwnershipLease
deriving DecidableEq

/-- `ProtocolMediaSessionSnapshot` -/
structure ProtocolMediaSessionSnapshot where
  lease : PlayerOwnershipLease
  lifecycle : ProtocolMediaSessionLifecycle
  playback : ProtocolMediaPlaybackState
  control : ProtocolMediaControlState
  revision : UInt32
deriving DecidableEq

/-- `ProtocolMediaTransitionStatus` -/
inductive ProtocolMediaTransitionStatus where
  | applied
  | noChange
  | stale
  | invalid
deriving DecidableEq, Repr

/-- `protocol_media_session_init` -/
def protocolMediaSessionInit : ProtocolMediaSessionSnapshot :=
  ⟨.zero, .idle, .unknown, .unknown, 0⟩

/-- `lease_valid` -/
def leaseValid (lease : PlayerOwnershipLease) : Bool :=
  decide (lease.owner ≠ .none ∧ lease.generation ≠ 0)

/-- `generation_newer`: the difference, read as a signed number, is positive. -/
def generationNewer (candidate current : UInt32) : Bool :=
  decide (0 < (candidate - current).toNat ∧ (candidate - current).toNat < 2 ^ 31)

/-- `bump_revision` -/
def bumpRevision (revision : UInt32) : UInt32 :=
  if revision + 1 = 0 then revision + 1 + 1 else revision + 1

variable (session : ProtocolMediaSessionSnapshot)

/-- `apply_claim` -/
def applyClaim (lease : PlayerOwnershipLease) :
    ProtocolMediaTransitionStatus × ProtocolMediaSessionSnapshot :=
  if leaseValid lease = false then (.invalid, session)
  else if session.lease = lease then (.noChange, session)
  else if session.lease.generation ≠ 0 ∧
      generationNewer lease.generation session.lease.generation = false then (.stale, session)
  else
    (.applied,
      { lease, lifecycle := .preparing, playback := .unknown, control := .unknown
        revision := bumpRevision session.revision })

/-- `apply_reset` -/
def applyReset :
    ProtocolMediaTransitionStatus × ProtocolMediaSessionSnapshot :=
  if session.lifecycle = .idle ∧ session.lease.owner = .none then (.noChange, session)
  else (.applied, { protocolMediaSessionInit with revision := bumpRevision session.revision })

/-- The end of `protocol_media_session_transition`: a change is counted. -/
def sessionChanged (next : ProtocolMediaSessionSnapshot) (changed : Bool) :
    ProtocolMediaTransitionStatus × ProtocolMediaSessionSnapshot :=
  if changed = false then (.noChange, next)
  else (.applied, { next with revision := bumpRevision session.revision })

/-- A session that takes no more playback events. -/
def sessionClosing : Bool :=
  decide (session.lifecycle = .stopping ∨ session.lifecycle = .failed)

/-- `protocol_media_session_transition` -/
def protocolMediaSessionTransition
    (event : ProtocolMediaEvent) :
    ProtocolMediaTransitionStatus × ProtocolMediaSessionSnapshot :=
  if event.kind = .reset then applyReset session
  else if event.kind = .claimed then applyClaim session event.lease
  else if leaseValid event.lease = false ∨ session.lease ≠ event.lease then (.stale, session)
  else
    match event.kind with
    | .loadRequested =>
      if sessionClosing session then (.invalid, session)
      else
        sessionChanged session { session with lifecycle := .loading, playback := .unknown }
          (decide (session.lifecycle ≠ .loading ∨ session.playback ≠ .unknown))
    | .active =>
      if sessionClosing session then (.invalid, session)
      else
        sessionChanged session { session with lifecycle := .active }
          (decide (session.lifecycle ≠ .active))
    | .playing =>
      if sessionClosing session then (.invalid, session)
      else
        sessionChanged session { session with lifecycle := .active, playback := .playing }
          (decide (session.lifecycle ≠ .active ∨ session.playback ≠ .playing))
    | .paused =>
      if sessionClosing session then (.invalid, session)
      else
        sessionChanged session { session with lifecycle := .active, playback := .paused }
          (decide (session.lifecycle ≠ .active ∨ session.playback ≠ .paused))
    | .controlAttached =>
      if sessionClosing session then (.invalid, session)
      else
        sessionChanged session { session with control := .attached }
          (decide (session.control ≠ .attached))
    | .controlDetached =>
      if sessionClosing session then (.invalid, session)
      else
        sessionChanged session { session with control := .detached }
          (decide (session.control ≠ .detached))
    | .stopRequested | .ended =>
      sessionChanged session { session with lifecycle := .stopping }
        (decide (session.lifecycle ≠ .stopping))
    | .failed =>
      if session.lifecycle = .stopping then (.invalid, session)
      else
        sessionChanged session { session with lifecycle := .failed }
          (decide (session.lifecycle ≠ .failed))
    | .released => applyReset session
    | .claimed | .reset => (.invalid, session)

/-! ## The lease of a session -/

/-- An event that moves the lease; only the coordinator submits those. -/
def ProtocolMediaEvent.isAuthority (event : ProtocolMediaEvent) : Bool :=
  decide (event.kind = .claimed ∨ event.kind = .released ∨ event.kind = .reset)

lemma lease_sessionChanged (next : ProtocolMediaSessionSnapshot) (changed : Bool) :
    (sessionChanged session next changed).2.lease = next.lease := by
  unfold sessionChanged
  split <;> rfl

lemma lease_transition_of_not_authority {session : ProtocolMediaSessionSnapshot}
    {event : ProtocolMediaEvent} (h : event.isAuthority = false) :
    (protocolMediaSessionTransition session event).2.lease = session.lease := by
  simp only [ProtocolMediaEvent.isAuthority, decide_eq_false_iff_not, not_or] at h
  obtain ⟨hclaim, hrel, hreset⟩ := h
  unfold protocolMediaSessionTransition
  rw [if_neg hreset, if_neg hclaim]
  split
  · rfl
  split
  all_goals first
    | rfl
    | exact absurd ‹event.kind = _› hrel
    | rw [lease_sessionChanged]
    | (split
       · rfl
       · rw [lease_sessionChanged])

end NXCast
