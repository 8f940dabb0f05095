import NXCast.App.Coordinator
import NXCast.Player.Session

/-!
# The playback observer

`protocol_coordinator_observe_playback` and `protocol_coordinator_observe_player_state`, with the
claims and releases around them, one call after the other.  Beside the coordinator the state has
the observer's flag, times and generation, which `coordinator_apply_media_event` keeps along; a
call reads the clock once, and its time is an argument.
-/

namespace NXCast

open Interleaving ProtocolCoordinator

/-- `PROTOCOL_TERMINAL_RELEASE_GRACE_MS` -/
def protocolTerminalReleaseGraceMs : ℕ := 1000

/-- The coordinator with its observer; time is in milliseconds. -/
structure PlaybackObserver where
  coordinator : ProtocolCoordinator
  mediaClaimMs : ℕ
  mediaReadyMs : ℕ
  playbackObservedGeneration : UInt32
  playbackSeenActive : Bool

namespace PlaybackObserver

/-- The observer when nothing has been observed. -/
def fresh (coordinator : ProtocolCoordinator) : PlaybackObserver := ⟨coordinator, 0, 0, 0, false⟩

/-- `coordinator_apply_media_event`, with what it does to the observer. -/
def applyMediaEvent (now : ℕ) (event : ProtocolMediaEvent) (allowAuthorityEvent : Bool)
    (o : PlaybackObserver) : PlaybackObserver :=
  if allowAuthorityEvent = false ∧ event.isAuthority then o
  else
    let previousGeneration := o.coordinator.mediaSession.lease.generation
    let (status, coordinator) := ProtocolCoordinator.applyMediaEvent event o.coordinator
    if status ≠ .applied then { o with coordinator }
    else if coordinator.mediaSession.lifecycle = .idle then fresh coordinator
    else if coordinator.mediaSession.lease.generation ≠ previousGeneration then
      { coordinator
        mediaClaimMs := now
        mediaReadyMs := 0
        playbackObservedGeneration := coordinator.mediaSession.lease.generation
        playbackSeenActive := false }
    else { o with coordinator }

/-- A change of the coordinator that the observer does not follow. -/
def onCoordinator (effect : ProtocolCoordinator → ProtocolCoordinator) (o : PlaybackObserver) :
    PlaybackObserver := { o with coordinator := effect o.coordinator }

variable (now : ℕ)

/-- `coordinator_set_active_media` -/
def setActiveMedia (lease : Option PlayerOwnershipLease) (o : PlaybackObserver) :
    PlaybackObserver :=
  match lease with
  | some lease => o.applyMediaEvent now ⟨.claimed, lease⟩ true
  | none => o.applyMediaEvent now ⟨.released, o.coordinator.mediaSession.lease⟩ true

/-! ## Claims and releases -/

/-- What every release of the owner does to the coordinator's view. -/
def clearMedia (o : PlaybackObserver) : PlaybackObserver :=
  ((o.setActiveMedia now none).onCoordinator (setDesiredResourceMode .home)).onCoordinator
    (applyDiscoverySuspension false (some .mediaOwnership))

/-- A release of the ownership, and what follows from it. -/
def releaseWith (release : PlayerOwnership → Bool × PlayerOwnership)
    (o : PlaybackObserver) : Bool × PlaybackObserver :=
  let (released, coordinator) := onOwnership release o.coordinator
  (released, if released then clearMedia now { o with coordinator } else { o with coordinator })

/-- `protocol_coordinator_media_release` -/
def mediaRelease (lease : PlayerOwnershipLease) (o : PlaybackObserver) :
    Bool × PlaybackObserver := o.releaseWith now (playerOwnershipRelease lease)

/-- `protocol_coordinator_media_release_current` -/
def mediaReleaseCurrent (owner : PlayerMediaOwner) (token : UInt64)
    (o : PlaybackObserver) : Bool × PlaybackObserver :=
  o.releaseWith now (playerOwnershipReleaseCurrent owner token)

/-- Whether the player may go to an owner of another family: an AirPlay owner is asked to
release, and answers. -/
def takeover (owner : PlayerMediaOwner) (answer : Bool) (c : ProtocolCoordinator) : Bool :=
  if c.exclusiveMediaResources = false then true
  else if ownerIsAirplay c.ownership.current.owner ∧
      resourceModeForOwner c.ownership.current.owner ≠ resourceModeForOwner owner then
    c.hasAirplayReleaseActiveMedia && answer
  else true

/-- The test of `protocol_coordinator_media_begin` under the transition lock. -/
def mayClaim (owner : PlayerMediaOwner) (c : ProtocolCoordinator) : Bool :=
  c.accepts false && !(c.exclusiveMediaResources && decide (c.ownership.current.owner ≠ .none) &&
    decide (resourceModeForOwner c.ownership.current.owner ≠ resourceModeForOwner owner))

/-- `protocol_coordinator_media_begin`: the lease that is granted. -/
def mediaBegin (owner : PlayerMediaOwner) (token : UInt64) (answer : Bool)
    (o : PlaybackObserver) : Option PlayerOwnershipLease × PlaybackObserver :=
  if owner = .none ∨ o.coordinator.accepts false = false ∨
      takeover owner answer o.coordinator = false ∨ mayClaim owner o.coordinator = false then
    (none, o)
  else
    match onOwnership (playerOwnershipClaim owner token) o.coordinator with
    | (none, coordinator) => (none, { o with coordinator })
    | (some (lease, _), coordinator) =>
      (some lease,
        ((setActiveMedia now (some lease) { o with coordinator }).onCoordinator
          (setDesiredResourceMode (resourceModeForOwner lease.owner))).onCoordinator
            (applyDiscoverySuspension true (some .mediaOwnership)))

/-! ## Observations -/

/-- The resources are where the coordinator wants them. -/
def resourceReady (c : ProtocolCoordinator) : Bool :=
  decide (c.desiredResourceMode = c.appliedResourceMode) && !c.resourceTransitionActive &&
    !c.resourceTransitionFailed && resourceServicesMatch c.desiredResourceMode c

/-- The observer takes up the active lease. -/
def followLease (o : PlaybackObserver) : PlaybackObserver :=
  if o.playbackObservedGeneration ≠ o.coordinator.activeMedia.generation then
    { o with
      playbackObservedGeneration := o.coordinator.activeMedia.generation
      playbackSeenActive := false
      mediaClaimMs := now }
  else o

/-- What an active observation sets. -/
def noteActive (active : Bool) (o : PlaybackObserver) : PlaybackObserver :=
  if active then { o with playbackSeenActive := true, mediaReadyMs := 0 } else o

/-- What a terminal observation before any active one does to the time of readiness. -/
def noteTerminal (active terminal : Bool) (o : PlaybackObserver) : PlaybackObserver :=
  if !active && terminal && !o.playbackSeenActive then
    if resourceReady o.coordinator = false then { o with mediaReadyMs := 0 }
    else if o.mediaReadyMs = 0 then { o with mediaReadyMs := now }
    else o
  else o

/-- The test for a terminal release. -/
def releaseDue (terminal : Bool) (o : PlaybackObserver) : Bool :=
  terminal && (o.playbackSeenActive || (decide (0 < o.mediaReadyMs) &&
    decide (o.mediaReadyMs ≤ now) &&
    decide (now - o.mediaReadyMs ≥ protocolTerminalReleaseGraceMs)))

/-- The section of `protocol_coordinator_observe_playback`: the lease that is to be released. -/
def observeSection (active terminal : Bool) (o : PlaybackObserver) :
    Option PlayerOwnershipLease × PlaybackObserver :=
  if o.coordinator.exclusiveMediaResources = false ∨ o.coordinator.activeMedia.owner = .none then
    (none, o)
  else
    let o := ((o.followLease now).noteActive active).noteTerminal now active terminal
    (if releaseDue now terminal o then some o.coordinator.activeMedia else none, o)

/-- The part of `protocol_coordinator_observe_playback` in front of its section. -/
def announcePlayback (active : Bool) (o : PlaybackObserver) : PlaybackObserver :=
  let o := o.onCoordinator (applyDiscoverySuspension active (some .playbackActivity))
  if active ∧ o.coordinator.ownership.owned then
    o.applyMediaEvent now ⟨.active, o.coordinator.ownership.current⟩ false
  else o

/-- `protocol_coordinator_observe_playback`: the lease that it has released. -/
def observePlayback (active terminal : Bool) (o : PlaybackObserver) :
    Option PlayerOwnershipLease × PlaybackObserver :=
  match (o.announcePlayback now active).observeSection now active terminal with
  | (none, o) => (none, o)
  | (some lease, o) =>
    let (released, o) := (o.applyMediaEvent now ⟨.ended, lease⟩ false).mediaRelease now lease
    (if released then some lease else none, o)

/-- What `protocol_coordinator_observe_player_state` makes of a state: the event to submit,
active, terminal. -/
def describeState : PlayerState → Option ProtocolMediaEventKind × Bool × Bool
  | .loading | .buffering => (some .loadRequested, false, false)
  | .seeking => (some .active, true, false)
  | .playing => (some .playing, true, false)
  | .paused => (some .paused, true, false)
  | .error => (some .failed, false, true)
  | .idle | .stopped => (none, false, true)

/-- The part of `protocol_coordinator_observe_player_state` in front of the observation. -/
def submitState (state : PlayerState) (o : PlaybackObserver) : PlaybackObserver :=
  match o.coordinator.ownership.owned, (describeState state).1 with
  | true, some kind => o.applyMediaEvent now ⟨kind, o.coordinator.ownership.current⟩ false
  | _, _ => o

/-- Without an owner a state is never active. -/
def stateActive (state : PlayerState) (o : PlaybackObserver) : Bool :=
  o.coordinator.ownership.owned && (describeState state).2.1

/-- `protocol_coordinator_observe_player_state` -/
def observePlayerState (state : PlayerState) (o : PlaybackObserver) :
    Option PlayerOwnershipLease × PlaybackObserver :=
  (o.submitState now state).observePlayback now (o.stateActive state) (describeState state).2.2

end PlaybackObserver

end NXCast
