import NXCast.App.MediaSession
import NXCast.Framework.Interleaving

/-!
# The protocol coordinator

The functions of `protocol_coordinator.c` that touch the media ownership, each as a thread
program: one `act` for every section under the coordinator or the ownership mutex, and
`Thread.locked` for what stands between `player_ownership_transition_begin` and `_end`.  The two mutexes guard
different data, so one record holds both; which thread may run a section when is left to the
scheduler.

Callbacks of the services run outside every lock.  What they answer is asked for, and what
they call is a call of another thread.  Logging, clocks, the service and resource worker
threads and the playback observer's timers are left out; the fields those workers share with
the functions here are written by `launchResourceWorker`, `finishResourceWorker` and
`setServiceState` at any time.
-/

namespace NXCast

open Interleaving

/-! ## Data -/

/-- `ProtocolCoordinatorState` -/
inductive ProtocolCoordinatorState where
  | stopped
  | starting
  | ready
  | mediaActive
  | stopping
  | failed
deriving DecidableEq, Repr

/-- `ProtocolService` -/
inductive ProtocolService where
  | iptv
  | dlna
  | airplay
deriving DecidableEq, Repr

/-- `ProtocolServiceState` -/
inductive ProtocolServiceState where
  | disabled
  | stopped
  | starting
  | running
  | failed
deriving DecidableEq, Repr

/-- `ProtocolResourceMode` -/
inductive ProtocolResourceMode where
  | home
  | iptvExclusive
  | dlnaExclusive
  | airplayExclusive
deriving DecidableEq, Repr

/-- `ProtocolDiscoverySuspensionPolicy` -/
inductive ProtocolDiscoverySuspensionPolicy where
  | none
  | mediaOwnership
  | playbackActivity
deriving DecidableEq, Repr

/-- `ProtocolLifecycle` -/
inductive ProtocolLifecycle where
  | stopped
  | starting
  | running
  | stopping
deriving DecidableEq, Repr

/-- The fields of `ProtocolCoordinatorConfig` that the media functions depend on. -/
structure ProtocolCoordinatorConfig where
  enabled : ProtocolService → Bool
  exclusiveMediaResources : Bool
  discoverySuspensionPolicy : ProtocolDiscoverySuspensionPolicy

/-- The player's ownership and what the media functions use of `ProtocolCoordinator`.  The
fields from `state` on are those of its snapshot; the two operations are present or not. -/
structure ProtocolCoordinator where
  ownership : PlayerOwnership
  lifecycle : ProtocolLifecycle
  runtimeActive : Bool
  exclusiveMediaResources : Bool
  configuredEnabled : ProtocolService → Bool
  discoverySuspensionPolicy : ProtocolDiscoverySuspensionPolicy
  hasSetDiscoverySuspended : Bool
  hasAirplayReleaseActiveMedia : Bool
  state : ProtocolCoordinatorState
  services : ProtocolService → ProtocolServiceState
  activeMedia : PlayerOwnershipLease
  mediaSession : ProtocolMediaSessionSnapshot
  desiredResourceMode : ProtocolResourceMode
  appliedResourceMode : ProtocolResourceMode
  resourceTransitionActive : Bool
  resourceTransitionFailed : Bool
  discoverySuspended : Bool
  revision : UInt32

/-- `ProtocolMediaTransaction` -/
structure ProtocolMediaTransaction where
  active : Bool
  lease : PlayerOwnershipLease
  previous : PlayerOwnershipLease
deriving DecidableEq

/-- The services in the order of their enumeration. -/
def protocolServices : List ProtocolService := [.iptv, .dlna, .airplay]

/-- `resource_mode_for_owner` -/
def resourceModeForOwner : PlayerMediaOwner → ProtocolResourceMode
  | .iptv => .iptvExclusive
  | .dlna => .dlnaExclusive
  | .airplayVideo | .airplayMirror => .airplayExclusive
  | .none => .home

variable (owner : PlayerMediaOwner)

/-- `owner_is_airplay` -/
def ownerIsAirplay : Bool :=
  decide (owner = .airplayVideo ∨ owner = .airplayMirror)

/-! ## Sections -/

namespace ProtocolCoordinator

variable (c : ProtocolCoordinator)

/-- The test of `coordinator_accepts_guard`; `coordinator_accepts_media` never allows
stopping. -/
def accepts (allowStopping : Bool) : Bool :=
  decide (c.lifecycle = .starting ∨ c.lifecycle = .running ∨
    (allowStopping = true ∧ c.lifecycle = .stopping))

/-- `coordinator_recompute_state` -/
def recomputeState : ProtocolCoordinator :=
  let hasAny (state : ProtocolServiceState) :=
    protocolServices.any fun service => decide (c.services service = state)
  match c.lifecycle with
  | .stopped => { c with state := .stopped }
  | .stopping => { c with state := .stopping }
  | lifecycle =>
    if lifecycle = .starting ∧ hasAny .starting then { c with state := .starting }
    else
      { c with
        lifecycle := .running
        state :=
          if c.activeMedia.owner ≠ .none then .mediaActive
          else if hasAny .running then .ready
          else if hasAny .failed then .failed
          else .ready }

/-- `coordinator_bump_revision` -/
def bump : ProtocolCoordinator :=
  { c with revision := bumpRevision c.revision }

/-- The section of `coordinator_apply_media_event`. -/
def applyMediaEvent (event : ProtocolMediaEvent) (c : ProtocolCoordinator) :
    ProtocolMediaTransitionStatus × ProtocolCoordinator :=
  let (status, session) := protocolMediaSessionTransition c.mediaSession event
  if status = .applied then
    (status, bump (recomputeState { c with mediaSession := session, activeMedia := session.lease }))
  else (status, { c with mediaSession := session })

variable (mode : ProtocolResourceMode)

/-- The section of `coordinator_set_desired_resource_mode`. -/
def setDesiredResourceMode (c : ProtocolCoordinator) :
    ProtocolCoordinator :=
  let target := if c.exclusiveMediaResources then mode else .home
  if c.desiredResourceMode ≠ target then
    bump { c with desiredResourceMode := target, resourceTransitionFailed := false }
  else c

/-- The section of `coordinator_apply_discovery_suspension`; with a policy that is required,
under any other policy it does nothing. -/
def applyDiscoverySuspension (suspended : Bool)
    (required : Option ProtocolDiscoverySuspensionPolicy) (c : ProtocolCoordinator) :
    ProtocolCoordinator :=
  if required.isSome ∧ required ≠ some c.discoverySuspensionPolicy then c
  else
    let target := suspended && c.runtimeActive && c.hasSetDiscoverySuspended
    if c.discoverySuspended ≠ target then bump { c with discoverySuspended := target } else c

/-- The section of `protocol_coordinator_set_service_state`. -/
def setServiceState (service : ProtocolService) (state : ProtocolServiceState)
    (c : ProtocolCoordinator) : Bool × ProtocolCoordinator :=
  if c.lifecycle = .stopped then (false, c)
  else if c.services service ≠ state then
    (true, bump (recomputeState
      { c with services := fun other => if other = service then state else c.services other }))
  else (true, c)

/-- The section of `protocol_coordinator_begin_start`. -/
def beginStart (config : ProtocolCoordinatorConfig) (c : ProtocolCoordinator) :
    Bool × ProtocolCoordinator :=
  if c.lifecycle ≠ .stopped then (false, c)
  else
    (true, bump (recomputeState
      { c with
        mediaSession := protocolMediaSessionInit
        activeMedia := .zero
        desiredResourceMode := .home
        appliedResourceMode := .home
        resourceTransitionActive := false
        resourceTransitionFailed := false
        exclusiveMediaResources := config.exclusiveMediaResources
        configuredEnabled := config.enabled
        discoverySuspended := false
        discoverySuspensionPolicy := config.discoverySuspensionPolicy
        services := fun service => if config.enabled service then .starting else .disabled
        lifecycle := .starting }))

/-- The second section of `protocol_coordinator_start`. -/
def activateRuntime (config : ProtocolCoordinatorConfig)
    (hasSetDiscoverySuspended hasAirplayReleaseActiveMedia : Bool) (c : ProtocolCoordinator) :
    ProtocolCoordinator :=
  { c with
    hasSetDiscoverySuspended
    hasAirplayReleaseActiveMedia
    runtimeActive := true
    exclusiveMediaResources := config.exclusiveMediaResources
    configuredEnabled := config.enabled }

/-- The section of `protocol_coordinator_begin_stop`. -/
def beginStop : Bool × ProtocolCoordinator :=
  if c.lifecycle = .stopped ∨ c.lifecycle = .stopping then (false, c)
  else (true, bump (recomputeState { c with lifecycle := .stopping }))

/-- The last section of `protocol_coordinator_finish_stop`. -/
def finishStop : ProtocolCoordinator :=
  bump (recomputeState
    { c with
      services := fun service =>
        if c.services service ≠ .disabled then .stopped else .disabled
      mediaSession := protocolMediaSessionInit
      activeMedia := .zero
      desiredResourceMode := .home
      appliedResourceMode := .home
      resourceTransitionActive := false
      resourceTransitionFailed := false
      discoverySuspensionPolicy := .none
      lifecycle := .stopped })

/-- The last section of `protocol_coordinator_stop`. -/
def clearRuntime : ProtocolCoordinator :=
  { c with
    hasSetDiscoverySuspended := false
    hasAirplayReleaseActiveMedia := false
    runtimeActive := false
    exclusiveMediaResources := false
    configuredEnabled := fun _ => false
    discoverySuspensionPolicy := .none }

/-- The last section of `protocol_coordinator_reset`. -/
def clear : ProtocolCoordinator :=
  bump
    { c with
      hasSetDiscoverySuspended := false
      hasAirplayReleaseActiveMedia := false
      runtimeActive := false
      exclusiveMediaResources := false
      configuredEnabled := fun _ => false
      discoverySuspensionPolicy := .none
      services := fun _ => .disabled
      mediaSession := protocolMediaSessionInit
      activeMedia := .zero
      desiredResourceMode := .home
      appliedResourceMode := .home
      resourceTransitionActive := false
      resourceTransitionFailed := false
      discoverySuspended := false
      lifecycle := .stopped
      state := .stopped }

/-- What `coordinator_launch_resource_worker` writes. -/
def launchResourceWorker : ProtocolCoordinator :=
  bump { c with resourceTransitionActive := true, resourceTransitionFailed := false }

/-- The last section of `coordinator_resource_worker_run`. -/
def finishResourceWorker (target : ProtocolResourceMode) (completed success : Bool)
    (c : ProtocolCoordinator) : ProtocolCoordinator :=
  bump
    (if completed && success then
      { c with
        resourceTransitionActive := false
        appliedResourceMode := target
        resourceTransitionFailed := false }
    else if completed then
      { c with resourceTransitionActive := false, resourceTransitionFailed := true }
    else { c with resourceTransitionActive := false })

/-- `coordinator_resource_service_required` -/
def resourceServiceRequired (service : ProtocolService)
    (enabled : ProtocolService → Bool) : Bool :=
  enabled service &&
    match service with
    | .iptv => true
    | .dlna => decide (mode = .home ∨ mode = .dlnaExclusive)
    | .airplay => decide (mode = .home ∨ mode = .airplayExclusive)

/-- `coordinator_resource_services_match_locked` -/
def resourceServicesMatch (c : ProtocolCoordinator) : Bool :=
  protocolServices.all fun service =>
    if c.configuredEnabled service = false then decide (c.services service = .disabled)
    else if resourceServiceRequired mode service c.configuredEnabled then
      decide (c.services service = .running)
    else decide (c.services service = .stopped)

/-- The section of `protocol_coordinator_media_wait_resources`: ready, failed, accepting. -/
def resourcesReady (lease : PlayerOwnershipLease) (c : ProtocolCoordinator) :
    Bool × Bool × Bool :=
  let expected := resourceModeForOwner lease.owner
  (decide (c.activeMedia = lease) &&
      (!c.exclusiveMediaResources ||
        (decide (c.appliedResourceMode = expected) && !c.resourceTransitionActive &&
          resourceServicesMatch expected c)),
    c.resourceTransitionFailed, c.accepts false)

/-- A section of `ownership.c`. -/
def onOwnership {α : Type} (body : PlayerOwnership → α × PlayerOwnership)
    (c : ProtocolCoordinator) : α × ProtocolCoordinator :=
  ((body c.ownership).1, { c with ownership := (body c.ownership).2 })

/-! ### What the sections leave alone -/

section Fields

variable (c : ProtocolCoordinator)

/-- Recomputing the state moves the lifecycle only between starting and running. -/
lemma recomputeState_eq :
    ∃ lifecycle state, recomputeState c = { c with lifecycle, state } ∧
      (lifecycle = .stopped ↔ c.lifecycle = .stopped) ∧
      (lifecycle = .stopping ↔ c.lifecycle = .stopping) := by
  unfold recomputeState
  cases hlife : c.lifecycle with
  | stopped => exact ⟨.stopped, .stopped, rfl, .rfl, .rfl⟩
  | stopping => exact ⟨.stopping, .stopping, rfl, .rfl, .rfl⟩
  | starting =>
    dsimp only
    split
    · exact ⟨.starting, .starting, rfl, .rfl, .rfl⟩
    · exact ⟨.running, _, rfl, by simp, by simp⟩
  | running =>
    dsimp only
    split
    · exact ⟨.running, .starting, rfl, .rfl, .rfl⟩
    · exact ⟨.running, _, rfl, by simp, by simp⟩

/-- The fields that the ownership, the session and the resources depend on. -/
structure SameMedia (c c' : ProtocolCoordinator) : Prop where
  ownership : c'.ownership = c.ownership
  exclusiveMediaResources : c'.exclusiveMediaResources = c.exclusiveMediaResources
  stopped : c'.lifecycle = .stopped ↔ c.lifecycle = .stopped
  mediaSession : c'.mediaSession = c.mediaSession
  activeMedia : c'.activeMedia = c.activeMedia
  desiredResourceMode : c'.desiredResourceMode = c.desiredResourceMode

lemma sameMedia_recomputeState : SameMedia c (recomputeState c) := by
  obtain ⟨lifecycle, state, heq, hstop, -⟩ := recomputeState_eq c
  rw [heq]
  exact ⟨rfl, rfl, hstop, rfl, rfl, rfl⟩

lemma SameMedia.refl : SameMedia c c := ⟨rfl, rfl, .rfl, rfl, rfl, rfl⟩

variable {c}

lemma SameMedia.trans {c' c'' : ProtocolCoordinator} (h : SameMedia c c')
    (h' : SameMedia c' c'') : SameMedia c c'' :=
  ⟨h'.1.trans h.1, h'.2.trans h.2, h'.3.trans h.3, h'.4.trans h.4, h'.5.trans h.5, h'.6.trans h.6⟩

lemma sameMedia_bump (c : ProtocolCoordinator) : SameMedia c (bump (recomputeState c)) :=
  (sameMedia_recomputeState c).trans ⟨rfl, rfl, .rfl, rfl, rfl, rfl⟩

/-- What `coordinator_apply_media_event` changes: the session, and the active lease with it. -/
lemma applyMediaEvent_spec (event : ProtocolMediaEvent) (c : ProtocolCoordinator) :
    SameMedia
      { c with
        mediaSession := (protocolMediaSessionTransition c.mediaSession event).2
        activeMedia :=
          if (protocolMediaSessionTransition c.mediaSession event).1 = .applied then
            (protocolMediaSessionTransition c.mediaSession event).2.lease
          else c.activeMedia }
      (applyMediaEvent event c).2 := by
  unfold applyMediaEvent
  by_cases happ : (protocolMediaSessionTransition c.mediaSession event).1 = .applied
  · simp only [happ, if_true]
    exact sameMedia_bump _
  · simp only [happ, if_false]
    exact SameMedia.refl _

/-- What `coordinator_set_desired_resource_mode` changes. -/
lemma setDesiredResourceMode_spec (mode : ProtocolResourceMode) (c : ProtocolCoordinator) :
    SameMedia
      { c with desiredResourceMode := if c.exclusiveMediaResources then mode else .home }
      (setDesiredResourceMode mode c) := by
  unfold setDesiredResourceMode
  by_cases hchanged : c.desiredResourceMode ≠ if c.exclusiveMediaResources then mode else .home
  · rw [if_pos hchanged]
    exact ⟨rfl, rfl, .rfl, rfl, rfl, rfl⟩
  · rw [if_neg hchanged]
    exact ⟨rfl, rfl, .rfl, rfl, rfl, not_not.mp hchanged⟩

lemma applyDiscoverySuspension_spec (suspended : Bool)
    (required : Option ProtocolDiscoverySuspensionPolicy) (c : ProtocolCoordinator) :
    SameMedia c (applyDiscoverySuspension suspended required c) := by
  unfold applyDiscoverySuspension
  split
  · exact SameMedia.refl c
  dsimp only
  split
  · exact ⟨rfl, rfl, .rfl, rfl, rfl, rfl⟩
  · exact SameMedia.refl c

lemma setServiceState_spec (service : ProtocolService) (state : ProtocolServiceState)
    (c : ProtocolCoordinator) : SameMedia c (setServiceState service state c).2 := by
  unfold setServiceState
  split
  · exact SameMedia.refl c
  split
  · refine SameMedia.trans ?_ (sameMedia_bump _)
    exact ⟨rfl, rfl, .rfl, rfl, rfl, rfl⟩
  · exact SameMedia.refl c

lemma setServiceState_eq (service : ProtocolService) (serviceState : ProtocolServiceState)
    (c : ProtocolCoordinator) :
    ∃ services lifecycle state revision,
      (setServiceState service serviceState c).2 = { c with services, lifecycle, state, revision } ∧
      (lifecycle = .stopped ↔ c.lifecycle = .stopped) ∧
      (lifecycle = .stopping ↔ c.lifecycle = .stopping) := by
  unfold setServiceState
  split
  · exact ⟨c.services, c.lifecycle, c.state, c.revision, rfl, .rfl, .rfl⟩
  split
  · obtain ⟨lifecycle, state, heq, hlife⟩ := recomputeState_eq
      { c with
        services := fun other => if other = service then serviceState else c.services other }
    rw [heq]
    exact ⟨_, lifecycle, state, _, rfl, hlife⟩
  · exact ⟨c.services, c.lifecycle, c.state, c.revision, rfl, .rfl, .rfl⟩

lemma beginStop_spec (c : ProtocolCoordinator) : SameMedia c (beginStop c).2 := by
  unfold beginStop
  split_ifs with hrun
  · exact SameMedia.refl c
  rw [not_or] at hrun
  refine SameMedia.trans ?_ (sameMedia_bump _)
  exact ⟨rfl, rfl, by simp [hrun.1], rfl, rfl, rfl⟩

/-- What `protocol_coordinator_begin_start` changes, if anything. -/
lemma beginStart_spec (config : ProtocolCoordinatorConfig) (c : ProtocolCoordinator) :
    (beginStart config c).2 = c ∨
      (c.lifecycle = .stopped ∧ (beginStart config c).2.lifecycle ≠ .stopped ∧
        (beginStart config c).2.ownership = c.ownership ∧
        (beginStart config c).2.mediaSession = protocolMediaSessionInit ∧
        (beginStart config c).2.activeMedia = .zero ∧
        (beginStart config c).2.desiredResourceMode = .home) := by
  unfold beginStart
  split_ifs with hstop
  · exact .inl rfl
  refine .inr ⟨not_not.mp hstop, ?_⟩
  obtain ⟨howner, -, hlife, hsess, hact, hdesired⟩ := sameMedia_bump
    { c with
      mediaSession := protocolMediaSessionInit
      activeMedia := .zero
      desiredResourceMode := .home
      appliedResourceMode := .home
      resourceTransitionActive := false
      resourceTransitionFailed := false
      exclusiveMediaResources := config.exclusiveMediaResources
      configuredEnabled := config.enabled
      discoverySuspended := false
      discoverySuspensionPolicy := config.discoverySuspensionPolicy
      services := fun service => if config.enabled service then .starting else .disabled
      lifecycle := .starting }
  exact ⟨fun h => ProtocolLifecycle.noConfusion (hlife.mp h), howner, hsess, hact, hdesired⟩

lemma finishStop_spec (c : ProtocolCoordinator) :
    (finishStop c).ownership = c.ownership ∧ (finishStop c).lifecycle = .stopped ∧
      (finishStop c).exclusiveMediaResources = c.exclusiveMediaResources ∧
      (finishStop c).mediaSession = protocolMediaSessionInit ∧
      (finishStop c).activeMedia = .zero ∧ (finishStop c).desiredResourceMode = .home := by
  obtain ⟨howner, hexcl, hlife, hsess, hact, hdesired⟩ := sameMedia_bump
    { c with
      services := fun service =>
        if c.services service ≠ .disabled then .stopped else .disabled
      mediaSession := protocolMediaSessionInit
      activeMedia := .zero
      desiredResourceMode := .home
      appliedResourceMode := .home
      resourceTransitionActive := false
      resourceTransitionFailed := false
      discoverySuspensionPolicy := .none
      lifecycle := .stopped }
  exact ⟨howner, hlife.mpr rfl, hexcl, hsess, hact, hdesired⟩

lemma launchResourceWorker_spec (c : ProtocolCoordinator) : SameMedia c (launchResourceWorker c) :=
  ⟨rfl, rfl, .rfl, rfl, rfl, rfl⟩

lemma finishResourceWorker_spec (target : ProtocolResourceMode) (completed success : Bool)
    (c : ProtocolCoordinator) : SameMedia c (finishResourceWorker target completed success c) := by
  unfold finishResourceWorker
  split
  · exact ⟨rfl, rfl, .rfl, rfl, rfl, rfl⟩
  · split
    all_goals exact ⟨rfl, rfl, .rfl, rfl, rfl, rfl⟩

end Fields

end ProtocolCoordinator

/-! ## Functions -/

open ProtocolCoordinator

/-- A function of the coordinator. -/
abbrev Coordinated (α : Type) := Thread ProtocolCoordinator α

/-- `coordinator_accepts_media` -/
def coordinatorAcceptsMedia : Coordinated Bool := Thread.get (accepts · false)

/-- `coordinator_accepts_guard` -/
def coordinatorAcceptsGuard (allowStopping : Bool) : Coordinated Bool :=
  Thread.get (accepts · allowStopping)

/-- `coordinator_exclusive_resources_enabled` -/
def coordinatorExclusiveResourcesEnabled : Coordinated Bool :=
  Thread.get (·.exclusiveMediaResources)

/-- `player_ownership_current`: what it stores. -/
def ownershipCurrent : Coordinated PlayerOwnershipLease := Thread.get (·.ownership.current)

variable (lease : PlayerOwnershipLease)

/-- `player_ownership_validate` -/
def ownershipValidate : Coordinated Bool :=
  Thread.get (playerOwnershipValidate lease ·.ownership)

/-- `coordinator_apply_media_event` -/
def coordinatorApplyMediaEvent (event : ProtocolMediaEvent) (allowAuthorityEvent : Bool) :
    Coordinated ProtocolMediaTransitionStatus :=
  if allowAuthorityEvent = false ∧ event.isAuthority then pure .invalid
  else Thread.atomic (applyMediaEvent event)

/-- `coordinator_set_active_media` -/
def coordinatorSetActiveMedia : Option PlayerOwnershipLease → Coordinated Unit
  | some lease => do
    let _ ← coordinatorApplyMediaEvent ⟨.claimed, lease⟩ true
  | none => do
    let lease ← Thread.get (·.mediaSession.lease)
    let _ ← coordinatorApplyMediaEvent ⟨.released, lease⟩ true

/-- `coordinator_set_desired_resource_mode` -/
def coordinatorSetDesiredResourceMode (mode : ProtocolResourceMode) : Coordinated Unit :=
  Thread.modify (setDesiredResourceMode mode)

/-- `coordinator_set_discovery_suspended_for_policy` -/
def coordinatorSetDiscoverySuspendedForPolicy (policy : ProtocolDiscoverySuspensionPolicy)
    (suspended : Bool) : Coordinated Unit :=
  Thread.modify (applyDiscoverySuspension suspended (some policy))

/-- What every release of the owner does to the coordinator's view. -/
def coordinatorClearMedia : Coordinated Unit := do
  coordinatorSetActiveMedia none
  coordinatorSetDesiredResourceMode .home
  coordinatorSetDiscoverySuspendedForPolicy .mediaOwnership false

/-- `coordinator_release_airplay_owner` -/
def coordinatorReleaseAirplayOwner : Coordinated Bool :=
  if ownerIsAirplay lease.owner = false then pure false
  else do
    let callback ← Thread.get (·.hasAirplayReleaseActiveMedia)
    if callback then Thread.answer else pure false

/-- The session part of `coordinator_sync_active_media`. -/
def coordinatorSyncSession (current observed : PlayerOwnershipLease) : Coordinated Unit :=
  if current.owner ≠ .none then
    if observed ≠ current then do
      let _ ← coordinatorApplyMediaEvent ⟨.claimed, current⟩ true
    else pure ()
  else if observed.owner ≠ .none then do
    let _ ← coordinatorApplyMediaEvent ⟨.released, observed⟩ true
  else pure ()

/-- `coordinator_sync_active_media`.  What it has read of the ownership is in use to its end. -/
def coordinatorSyncActiveMedia : Coordinated Unit :=
  Thread.watched (·.ownership.current) fun current => do
    let observed ← Thread.get (·.mediaSession.lease)
    coordinatorSyncSession current observed
    coordinatorSetDesiredResourceMode
      (if current.owner ≠ .none then resourceModeForOwner current.owner else .home)
    coordinatorSetDiscoverySuspendedForPolicy .mediaOwnership (decide (current.owner ≠ .none))

/-! ## Lifecycle -/

/-- `protocol_coordinator_start`; its service workers are calls of their own. -/
def protocolCoordinatorStart (config : ProtocolCoordinatorConfig)
    (hasSetDiscoverySuspended hasAirplayReleaseActiveMedia : Bool) : Coordinated Bool := do
  let started ← Thread.atomic (beginStart config)
  if started = false then pure false
  else do
    Thread.modify (activateRuntime config hasSetDiscoverySuspended hasAirplayReleaseActiveMedia)
    pure true

/-- `protocol_coordinator_finish_stop` -/
def protocolCoordinatorFinishStop : Coordinated Unit := Thread.locked do
  Thread.modify fun c => { c with ownership := playerOwnershipReset c.ownership }
  Thread.modify (applyDiscoverySuspension false none)
  Thread.modify finishStop

/-- A service that needs to be stopped is. -/
def coordinatorStopService (service : ProtocolService) : Coordinated Bool := do
  let stopRequired ← Thread.answer
  if stopRequired then Thread.atomic (setServiceState service .stopped) else pure false

/-- The loop of `protocol_coordinator_stop` over the services. -/
def coordinatorStopServices : List ProtocolService → Coordinated Unit
  | [] => pure ()
  | service :: services => do
    let _ ← coordinatorStopService service
    coordinatorStopServices services

/-- `protocol_coordinator_stop` -/
def protocolCoordinatorStop : Coordinated Unit := do
  let stopping ← Thread.atomic beginStop
  if stopping = false then pure ()
  else do
    coordinatorStopServices protocolServices.reverse
    protocolCoordinatorFinishStop
    Thread.modify clearRuntime

/-- The first part of `protocol_coordinator_reset`. -/
def coordinatorStopRuntime : Coordinated Unit := do
  let runtimeActive ← Thread.get (·.runtimeActive)
  if runtimeActive then protocolCoordinatorStop else pure ()

/-- `protocol_coordinator_reset` -/
def protocolCoordinatorReset : Coordinated Unit := do
  coordinatorStopRuntime
  Thread.locked do
    Thread.modify fun c => { c with ownership := playerOwnershipReset c.ownership }
    Thread.modify clear

/-! ## Media -/

/-- The part of `protocol_coordinator_media_begin` before the transition lock: an AirPlay owner
of another family is asked to release. -/
def coordinatorTakeover : Coordinated Bool := do
  let exclusive ← coordinatorExclusiveResourcesEnabled
  if exclusive = false then pure true
  else do
    let previous ← ownershipCurrent
    if ownerIsAirplay previous.owner ∧
        resourceModeForOwner previous.owner ≠ resourceModeForOwner owner then
      coordinatorReleaseAirplayOwner previous
    else pure true

/-- The part of `protocol_coordinator_media_begin` behind a claim that was granted. -/
def coordinatorPublishClaim : Coordinated Unit := do
  coordinatorSetActiveMedia (some lease)
  coordinatorSetDesiredResourceMode (resourceModeForOwner lease.owner)
  coordinatorSetDiscoverySuspendedForPolicy .mediaOwnership true

/-- The test under the transition lock: the requester may have the player. -/
def coordinatorMayClaim : Coordinated Bool := do
  let previous ← ownershipCurrent
  let accepts ← coordinatorAcceptsMedia
  if accepts = false then pure false
  else do
    let exclusive ← coordinatorExclusiveResourcesEnabled
    pure (!(exclusive && decide (previous.owner ≠ .none) &&
      decide (resourceModeForOwner previous.owner ≠ resourceModeForOwner owner)))

variable (token : UInt64)

/-- The claim of `protocol_coordinator_media_begin`, under the transition lock. -/
def coordinatorClaim :
    Coordinated (Option ProtocolMediaTransaction) := do
  let mayClaim ← coordinatorMayClaim owner
  if mayClaim = false then pure none
  else do
    let claimed ← Thread.atomic (onOwnership (playerOwnershipClaim owner token))
    match claimed with
    | none => pure none
    | some (lease, previous) => do
      coordinatorPublishClaim lease
      pure (some ⟨true, lease, previous⟩)

/-- `protocol_coordinator_media_begin` -/
def protocolCoordinatorMediaBegin :
    Coordinated (Option ProtocolMediaTransaction) :=
  if owner = .none then pure none
  else do
    let accepts ← coordinatorAcceptsMedia
    if accepts = false then pure none
    else do
      let free ← coordinatorTakeover owner
      if free = false then pure none
      else Thread.locked (coordinatorClaim owner token)

/-- `protocol_coordinator_media_validate` -/
def protocolCoordinatorMediaValidate : Coordinated Bool :=
  ownershipValidate lease

/-- `protocol_coordinator_media_wait_resources`, of at most `rounds` rounds. -/
def protocolCoordinatorMediaWaitResources (lease : PlayerOwnershipLease) :
    ℕ → Coordinated Bool
  | 0 => pure false
  | rounds + 1 =>
    if lease.owner = .none then pure false
    else do
      let (ready, failed, accepting) ← Thread.get (resourcesReady lease)
      if ready then protocolCoordinatorMediaValidate lease
      else if !accepting || failed then pure false
      else do
        let valid ← protocolCoordinatorMediaValidate lease
        let timeout ← Thread.answer
        if !valid || timeout then pure false
        else protocolCoordinatorMediaWaitResources lease rounds

/-- `protocol_coordinator_media_drive_resources`, of at most `rounds` rounds. -/
def protocolCoordinatorMediaDriveResources (lease : PlayerOwnershipLease) :
    ℕ → Coordinated Bool
  | 0 => pure false
  | rounds + 1 =>
    if lease.owner = .none then pure false
    else do
      coordinatorSyncActiveMedia
      let ready ← protocolCoordinatorMediaWaitResources lease 1
      if ready then pure true
      else do
        let valid ← protocolCoordinatorMediaValidate lease
        let timeout ← Thread.answer
        if !valid || timeout then pure false
        else protocolCoordinatorMediaDriveResources lease rounds

/-- What a release does to the coordinator's view, if it released anything. -/
def coordinatorReleased (released : Bool) : Coordinated Unit :=
  if released then coordinatorClearMedia else pure ()

/-- `protocol_coordinator_media_release` -/
def protocolCoordinatorMediaRelease : Coordinated Bool :=
  Thread.locked do
    let released ← Thread.atomic (onOwnership (playerOwnershipRelease lease))
    coordinatorReleased released
    pure released

/-- `protocol_coordinator_media_abort` -/
def protocolCoordinatorMediaAbort (transaction : ProtocolMediaTransaction) : Coordinated Unit :=
  if transaction.active = false then pure ()
  else
    Thread.locked do
      let released ← Thread.atomic (onOwnership (playerOwnershipRelease transaction.lease))
      coordinatorReleased released

/-- `protocol_coordinator_media_release_current` -/
def protocolCoordinatorMediaReleaseCurrent :
    Coordinated Bool :=
  Thread.locked do
    let released ← Thread.atomic (onOwnership (playerOwnershipReleaseCurrent owner token))
    coordinatorReleased released
    pure released

/-- `protocol_coordinator_media_guard_begin` -/
def protocolCoordinatorMediaGuardBegin :
    Coordinated (Option PlayerOwnershipLease) :=
  if owner = .none then pure none
  else do
    let accepts ← coordinatorAcceptsMedia
    if accepts = false then pure none
    else Thread.locked do
      let lease ← ownershipCurrent
      let accepts ← coordinatorAcceptsMedia
      pure (if accepts && decide (lease.owner = owner ∧ lease.token = token) then some lease
        else none)

/-- `protocol_coordinator_media_unowned_or_owner_guard_begin` -/
def protocolCoordinatorMediaUnownedOrOwnerGuardBegin : Coordinated (Option PlayerOwnershipLease) :=
  if owner = .none then pure none
  else do
    let accepts ← coordinatorAcceptsGuard false
    if accepts = false then pure none
    else Thread.locked do
      let lease ← ownershipCurrent
      let accepts ← coordinatorAcceptsGuard false
      pure (if accepts && decide (lease.owner = .none ∨ (lease.owner = owner ∧ lease.token = token))
        then some lease else none)

/-- The test of `protocol_coordinator_media_lease_guard_begin` under the transition lock. -/
def coordinatorGuardLease (allowStopping : Bool) :
    Coordinated Bool := do
  let accepts ← coordinatorAcceptsGuard allowStopping
  if accepts then ownershipValidate lease else pure false

/-- `protocol_coordinator_media_lease_guard_begin` -/
def protocolCoordinatorMediaLeaseGuardBegin
    (allowStopping : Bool) : Coordinated Bool :=
  if lease.owner = .none then pure false
  else do
    let accepts ← coordinatorAcceptsGuard allowStopping
    if accepts = false then pure false
    else Thread.locked (coordinatorGuardLease lease allowStopping)

/-- `protocol_coordinator_media_barrier_begin` -/
def protocolCoordinatorMediaBarrierBegin : Coordinated PlayerOwnershipLease :=
  Thread.locked ownershipCurrent

/-! ## Calls -/

/-- A call of the coordinator, or of the ownership and the workers behind its back. -/
inductive CoordinatorRequest where
  | mediaBegin (owner : PlayerMediaOwner) (token : UInt64)
  | mediaValidate (lease : PlayerOwnershipLease)
  | mediaWaitResources (lease : PlayerOwnershipLease) (rounds : ℕ)
  | mediaDriveResources (lease : PlayerOwnershipLease) (rounds : ℕ)
  | mediaRelease (lease : PlayerOwnershipLease)
  | mediaAbort (transaction : ProtocolMediaTransaction)
  | mediaReleaseCurrent (owner : PlayerMediaOwner) (token : UInt64)
  | mediaGuardBegin (owner : PlayerMediaOwner) (token : UInt64)
  | mediaUnownedOrOwnerGuardBegin (owner : PlayerMediaOwner) (token : UInt64)
  | mediaLeaseGuardBegin (lease : PlayerOwnershipLease) (allowStopping : Bool)
  | mediaBarrierBegin
  | mediaSubmitEvent (event : ProtocolMediaEvent)
  | syncActiveMedia
  | setPlaybackActive (active : Bool)
  | setServiceState (service : ProtocolService) (state : ProtocolServiceState)
  | beginStart (config : ProtocolCoordinatorConfig)
  | start (config : ProtocolCoordinatorConfig)
      (hasSetDiscoverySuspended hasAirplayReleaseActiveMedia : Bool)
  | beginStop
  | finishStop
  | stop
  | reset
  | actorReleaseLease (lease : PlayerOwnershipLease)
  | playerReset
  | launchResourceWorker
  | finishResourceWorker (target : ProtocolResourceMode) (completed success : Bool)

/-- What a call returns. -/
inductive CoordinatorResult where
  | void
  | bool (value : Bool)
  | transaction (transaction : Option ProtocolMediaTransaction)
  | guard (lease : Option PlayerOwnershipLease)
  | status (status : ProtocolMediaTransitionStatus)
deriving DecidableEq

/-- The program of a call. -/
def coordinatorProgram : CoordinatorRequest → Coordinated CoordinatorResult
  | .mediaBegin owner token => do
    let transaction ← protocolCoordinatorMediaBegin owner token
    pure (.transaction transaction)
  | .mediaValidate lease => do
    let valid ← protocolCoordinatorMediaValidate lease
    pure (.bool valid)
  | .mediaWaitResources lease rounds => do
    let ready ← protocolCoordinatorMediaWaitResources lease rounds
    pure (.bool ready)
  | .mediaDriveResources lease rounds => do
    let ready ← protocolCoordinatorMediaDriveResources lease rounds
    pure (.bool ready)
  | .mediaRelease lease => do
    let released ← protocolCoordinatorMediaRelease lease
    pure (.bool released)
  | .mediaAbort transaction => do
    protocolCoordinatorMediaAbort transaction
    pure .void
  | .mediaReleaseCurrent owner token => do
    let released ← protocolCoordinatorMediaReleaseCurrent owner token
    pure (.bool released)
  | .mediaGuardBegin owner token => do
    let lease ← protocolCoordinatorMediaGuardBegin owner token
    pure (.guard lease)
  | .mediaUnownedOrOwnerGuardBegin owner token => do
    let lease ← protocolCoordinatorMediaUnownedOrOwnerGuardBegin owner token
    pure (.guard lease)
  | .mediaLeaseGuardBegin lease allowStopping => do
    let valid ← protocolCoordinatorMediaLeaseGuardBegin lease allowStopping
    pure (.bool valid)
  | .mediaBarrierBegin => do
    let lease ← protocolCoordinatorMediaBarrierBegin
    pure (.guard (some lease))
  | .mediaSubmitEvent event => do
    let status ← coordinatorApplyMediaEvent event false
    pure (.status status)
  | .syncActiveMedia => do
    coordinatorSyncActiveMedia
    pure .void
  | .setPlaybackActive active => do
    coordinatorSetDiscoverySuspendedForPolicy .playbackActivity active
    pure .void
  | .setServiceState service state => do
    let accepted ← Thread.atomic (setServiceState service state)
    pure (.bool accepted)
  | .beginStart config => do
    let started ← Thread.atomic (beginStart config)
    pure (.bool started)
  | .start config hasSetDiscoverySuspended hasAirplayReleaseActiveMedia => do
    let started ← protocolCoordinatorStart config hasSetDiscoverySuspended
      hasAirplayReleaseActiveMedia
    pure (.bool started)
  | .beginStop => do
    let stopping ← Thread.atomic beginStop
    pure (.bool stopping)
  | .finishStop => do
    protocolCoordinatorFinishStop
    pure .void
  | .stop => do
    protocolCoordinatorStop
    pure .void
  | .reset => do
    protocolCoordinatorReset
    pure .void
  | .actorReleaseLease lease => do
    let released ← Thread.atomic (onOwnership (playerOwnershipRelease lease))
    pure (.bool released)
  | .playerReset => do
    Thread.modify fun c => { c with ownership := playerOwnershipReset c.ownership }
    pure .void
  | .launchResourceWorker => do
    Thread.modify launchResourceWorker
    pure .void
  | .finishResourceWorker target completed success => do
    Thread.modify (finishResourceWorker target completed success)
    pure .void

/-! ## Runs -/

/-- The coordinator once `protocol_coordinator_start` has returned. -/
def ProtocolCoordinator.started (config : ProtocolCoordinatorConfig)
    (hasSetDiscoverySuspended hasAirplayReleaseActiveMedia : Bool) : ProtocolCoordinator :=
  { ownership := .initial
    lifecycle := .starting
    runtimeActive := true
    exclusiveMediaResources := config.exclusiveMediaResources
    configuredEnabled := config.enabled
    discoverySuspensionPolicy := config.discoverySuspensionPolicy
    hasSetDiscoverySuspended
    hasAirplayReleaseActiveMedia
    state := .starting
    services := fun service => if config.enabled service then .starting else .disabled
    activeMedia := .zero
    mediaSession := protocolMediaSessionInit
    desiredResourceMode := .home
    appliedResourceMode := .home
    resourceTransitionActive := false
    resourceTransitionFailed := false
    discoverySuspended := false
    revision := 1 }

/-- A pool of threads that call the coordinator. -/
abbrev CoordinatorPool := Pool ProtocolCoordinator CoordinatorResult CoordinatorRequest

end NXCast
