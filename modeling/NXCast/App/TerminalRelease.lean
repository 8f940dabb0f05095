import NXCast.App.PlaybackObserver
import NXCast.Framework.Trace

/-!
# The terminal release

Runs of claims, releases and observations.  An observation carries no lease, so a run says beside
each of them under which lease the observed media was opened.

The observer counts an active observation for the lease that is held when it arrives, and a
stretch of terminal observations from its first one whatever comes between.  In a run in which
active observations are of the held lease's media, and nothing but terminal or active
observations comes while a stretch is counted, each terminal release is right.
-/

namespace NXCast

open Trace ProtocolCoordinator Option PlaybackObserver

/-! ## Runs -/

/-- A call, with the clock; an observation with the generation of the lease under which the
observed media was opened. -/
inductive PlaybackCall where
  | mediaBegin (now : ℕ) (owner : PlayerMediaOwner) (token : UInt64) (answer : Bool)
  | mediaRelease (now : ℕ) (lease : PlayerOwnershipLease)
  | mediaReleaseCurrent (now : ℕ) (owner : PlayerMediaOwner) (token : UInt64)
  | mediaSubmitEvent (now : ℕ) (event : ProtocolMediaEvent)
  | observePlayback (now : ℕ) (media : UInt32) (active terminal : Bool)
  | observePlayerState (now : ℕ) (media : UInt32) (state : PlayerState)
  | setServiceState (service : ProtocolService) (state : ProtocolServiceState)
  | launchResourceWorker
  | finishResourceWorker (target : ProtocolResourceMode) (completed success : Bool)

/-- An observation as the observer has taken it. -/
structure PlaybackObservation where
  media : UInt32
  active : Bool
  terminal : Bool
  resourceReady : Bool
  now : ℕ
deriving DecidableEq

/-- What a call has done: a claim that was granted, an observation, or a terminal release. -/
inductive PlaybackEvent where
  | claimed (lease : PlayerOwnershipLease)
  | observed (observation : PlaybackObservation)
  | terminalRelease (lease : PlayerOwnershipLease)
deriving DecidableEq

/-- The observer with what the calls have done. -/
structure PlaybackRun where
  observer : PlaybackObserver
  events : List PlaybackEvent

namespace PlaybackRun

/-- An observation and the release it has led to. -/
def observe (run : PlaybackRun) (now : ℕ) (media : UInt32) (active terminal : Bool)
    (observer : PlaybackObserver) : PlaybackRun :=
  let announced := observer.announcePlayback now active
  let (released, observer) := observer.observePlayback now active terminal
  ⟨observer, run.events ++ [.observed ⟨media, active, terminal,
      PlaybackObserver.resourceReady announced.coordinator, now⟩] ++
    (released.map .terminalRelease).toList⟩

/-- One call. -/
def step (run : PlaybackRun) : PlaybackCall → PlaybackRun
  | .mediaBegin now owner token answer =>
    let (lease, observer) := run.observer.mediaBegin now owner token answer
    ⟨observer, run.events ++ (lease.map .claimed).toList⟩
  | .mediaRelease now lease => ⟨(run.observer.mediaRelease now lease).2, run.events⟩
  | .mediaReleaseCurrent now owner token =>
    ⟨(run.observer.mediaReleaseCurrent now owner token).2, run.events⟩
  | .mediaSubmitEvent now event => ⟨run.observer.applyMediaEvent now event false, run.events⟩
  | .observePlayback now media active terminal => run.observe now media active terminal run.observer
  | .observePlayerState now media state =>
    run.observe now media (run.observer.stateActive state) (PlaybackObserver.describeState state).2.2
      (run.observer.submitState now state)
  | .setServiceState service state =>
    ⟨run.observer.onCoordinator fun c => (setServiceState service state c).2, run.events⟩
  | .launchResourceWorker => ⟨run.observer.onCoordinator launchResourceWorker, run.events⟩
  | .finishResourceWorker target completed success =>
    ⟨run.observer.onCoordinator (finishResourceWorker target completed success), run.events⟩

/-- The run in which no call has been made. -/
def started (config : ProtocolCoordinatorConfig)
    (hasSetDiscoverySuspended hasAirplayReleaseActiveMedia : Bool) : PlaybackRun :=
  ⟨.fresh (.started config hasSetDiscoverySuspended hasAirplayReleaseActiveMedia), []⟩

end PlaybackRun

/-! ## What is claimed of a release -/

namespace PlaybackEvent

def IsClaim : PlaybackEvent → Prop
  | .claimed _ => True
  | _ => False

/-- The media is not at its end, its resources are not ready, or a lease is claimed. -/
def Interrupts : PlaybackEvent → Prop
  | .claimed _ => True
  | .observed observation => ¬(observation.terminal = true ∧ observation.resourceReady = true)
  | .terminalRelease _ => False

end PlaybackEvent

/-- A terminal release of `lease` that is right after the events `before`: the last one is a
terminal observation, and since the claim either media opened under `lease` has been observed
active, or the resources have been ready and every observation terminal for the grace period. -/
structure ReleasedRightly (before : List PlaybackEvent) (lease : PlayerOwnershipLease) : Prop where
  terminal : ∃ final, before.getLast? = some (.observed final) ∧ final.terminal = true ∧
    ((∃ observation, Since before (.observed observation) PlaybackEvent.IsClaim ∧
        observation.active = true ∧ observation.media = lease.generation) ∨
      ∃ observation, Since before (.observed observation) PlaybackEvent.Interrupts ∧
        observation.terminal = true ∧ observation.resourceReady = true ∧
        observation.now + protocolTerminalReleaseGraceMs ≤ final.now)

/-- A terminal release is right; the other events say nothing. -/
def PlaybackEvent.Right (before : List PlaybackEvent) : PlaybackEvent → Prop
  | .terminalRelease lease => ReleasedRightly before lease
  | _ => True

/-- An observation that the observer takes for what it is: while a lease is held, the first active
one is of the lease's media, and one that is neither active nor terminal comes while no readiness
is counted. -/
def PlaybackObserver.Takes (o : PlaybackObserver) (media : UInt32) (active terminal : Bool) : Prop :=
  o.coordinator.exclusiveMediaResources = true → o.coordinator.activeMedia.owner ≠ .none →
    (active = true → o.playbackSeenActive = false →
      media = o.coordinator.activeMedia.generation) ∧
    (active = false → terminal = false → o.mediaReadyMs = 0)

/-- The observations of a call are taken for what they are. -/
def PlaybackObserver.TakesCall (o : PlaybackObserver) : PlaybackCall → Prop
  | .observePlayback _ media active terminal => o.Takes media active terminal
  | .observePlayerState _ media state =>
    o.Takes media (o.stateActive state) (PlaybackObserver.describeState state).2.2
  | _ => True

/-- A call that is taken for what it is. -/
def PlaybackMove (run run' : PlaybackRun) : Prop :=
  ∃ call, run.observer.TakesCall call ∧ run' = run.step call

/-! ## The observer and the lease

Called one after the other, the functions keep the ownership, the session and the observer on one
lease. -/

section session

variable {session : ProtocolMediaSessionSnapshot} {event : ProtocolMediaEvent}

lemma lifecycle_sessionChanged (session next : ProtocolMediaSessionSnapshot) (changed : Bool) :
    (sessionChanged session next changed).2.lifecycle = next.lifecycle := by
  unfold sessionChanged
  split <;> rfl

lemma busy_transition (hevent : event.isAuthority = false) (hbusy : session.lifecycle ≠ .idle) :
    (protocolMediaSessionTransition session event).2.lifecycle ≠ .idle := by
  simp only [ProtocolMediaEvent.isAuthority, decide_eq_false_iff_not, not_or] at hevent
  obtain ⟨hclaim, hrel, hreset⟩ := hevent
  unfold protocolMediaSessionTransition
  rw [if_neg hreset, if_neg hclaim]
  split
  · exact hbusy
  split
  all_goals first
    | exact hbusy
    | exact absurd ‹event.kind = _› hrel
    | (rw [lifecycle_sessionChanged]; first | exact hbusy | simp)
    | (split
       · exact hbusy
       · rw [lifecycle_sessionChanged]
         first | exact hbusy | simp)

lemma lease_of_applied (hevent : event.isAuthority = false)
    (happ : (protocolMediaSessionTransition session event).1 = .applied) :
    leaseValid session.lease := by
  simp only [ProtocolMediaEvent.isAuthority, decide_eq_false_iff_not, not_or] at hevent
  unfold protocolMediaSessionTransition at happ
  rw [if_neg hevent.2.2, if_neg hevent.1] at happ
  split at happ
  · cases happ
  rename_i hlease
  simp only [not_or, Bool.not_eq_false, not_not] at hlease
  rw [hlease.2]
  exact hlease.1

end session

/-- What a change leaves that is not of the lease. -/
structure SameLease (c c' : ProtocolCoordinator) : Prop where
  ownership : c'.ownership = c.ownership
  exclusive : c'.exclusiveMediaResources = c.exclusiveMediaResources
  lease : c'.mediaSession.lease = c.mediaSession.lease
  activeMedia : c'.activeMedia = c.activeMedia
  busy : c.mediaSession.lifecycle ≠ .idle → c'.mediaSession.lifecycle ≠ .idle

lemma ProtocolCoordinator.SameMedia.sameLease {c c' : ProtocolCoordinator} (h : SameMedia c c') :
    SameLease c c' :=
  ⟨h.ownership, h.exclusiveMediaResources, by rw [h.mediaSession], h.activeMedia,
    fun hbusy => by rwa [h.mediaSession]⟩

lemma SameLease.trans {c c' c'' : ProtocolCoordinator} (h : SameLease c c')
    (h' : SameLease c' c'') : SameLease c c'' :=
  ⟨h'.ownership.trans h.ownership, h'.exclusive.trans h.exclusive, h'.lease.trans h.lease,
    h'.activeMedia.trans h.activeMedia, fun hbusy => h'.busy (h.busy hbusy)⟩

namespace PlaybackObserver

/-- The ownership, the session and the observer are on one lease. -/
structure Sound (o : PlaybackObserver) : Prop where
  active : o.coordinator.activeMedia = o.coordinator.mediaSession.lease
  owned : o.coordinator.ownership.current = o.coordinator.mediaSession.lease
  lease : o.coordinator.mediaSession.lease = .zero ∨
    leaseValid o.coordinator.mediaSession.lease = true
  newest : o.coordinator.mediaSession.lease ≠ .zero →
    o.coordinator.mediaSession.lease.generation = o.coordinator.ownership.nextGeneration
  busy : o.coordinator.mediaSession.lease ≠ .zero → o.coordinator.mediaSession.lifecycle ≠ .idle
  tracked : o.coordinator.mediaSession.lease ≠ .zero →
    o.playbackObservedGeneration = o.coordinator.mediaSession.lease.generation
  untracked : o.coordinator.mediaSession.lease = .zero ∨
      o.coordinator.exclusiveMediaResources = false →
    o.playbackSeenActive = false ∧ o.mediaReadyMs = 0
  seen_ready : o.playbackSeenActive = true → o.mediaReadyMs = 0

variable {o : PlaybackObserver} {now : ℕ} {c : ProtocolCoordinator}

lemma Sound.same (h : o.Sound) (hsame : SameLease o.coordinator c) :
    ({ o with coordinator := c } : PlaybackObserver).Sound := by
  refine ⟨?_, ?_, ?_, ?_, ?_, ?_, ?_, h.seen_ready⟩
  · exact hsame.activeMedia.trans (h.active.trans hsame.lease.symm)
  · show c.ownership.current = c.mediaSession.lease
    rw [hsame.ownership, hsame.lease]
    exact h.owned
  · show c.mediaSession.lease = .zero ∨ leaseValid c.mediaSession.lease = true
    rw [hsame.lease]
    exact h.lease
  · show c.mediaSession.lease ≠ .zero → c.mediaSession.lease.generation = c.ownership.nextGeneration
    rw [hsame.lease, hsame.ownership]
    exact h.newest
  · show c.mediaSession.lease ≠ .zero → c.mediaSession.lifecycle ≠ .idle
    rw [hsame.lease]
    exact fun hlease => hsame.busy (h.busy hlease)
  · show c.mediaSession.lease ≠ .zero → o.playbackObservedGeneration = c.mediaSession.lease.generation
    rw [hsame.lease]
    exact h.tracked
  · show c.mediaSession.lease = .zero ∨ c.exclusiveMediaResources = false → _
    rw [hsame.lease, hsame.exclusive]
    exact h.untracked

variable {lease : PlayerOwnershipLease}

lemma leaseValid_ne_zero (h : leaseValid lease) : lease ≠ .zero := by
  rintro rfl
  simp [leaseValid, PlayerOwnershipLease.zero] at h

lemma Sound.owner_ne_none (h : o.Sound) (hlease : o.coordinator.mediaSession.lease ≠ .zero) :
    o.coordinator.activeMedia.owner ≠ .none := by
  have hvalid := h.lease.resolve_left hlease
  rw [leaseValid, decide_eq_true_eq] at hvalid
  rw [h.active]
  exact hvalid.1

lemma applied_of_event (event : ProtocolMediaEvent) (c : ProtocolCoordinator) :
    (ProtocolCoordinator.applyMediaEvent event c).1 =
      (protocolMediaSessionTransition c.mediaSession event).1 := by
  unfold ProtocolCoordinator.applyMediaEvent
  dsimp only
  split_ifs
  all_goals rfl

lemma Sound.submit (h : o.Sound) (now : ℕ) (event : ProtocolMediaEvent) :
    ∃ c, o.applyMediaEvent now event false = { o with coordinator := c } ∧
      SameLease o.coordinator c := by
  rw [applyMediaEvent]
  by_cases hauth : event.isAuthority = true
  · rw [if_pos ⟨rfl, hauth⟩]
    exact ⟨o.coordinator, rfl, (SameMedia.refl o.coordinator).sameLease⟩
  rw [if_neg (by simp [hauth])]
  have hevent : event.isAuthority = false := by simpa using hauth
  have hlease : (protocolMediaSessionTransition o.coordinator.mediaSession event).2.lease =
      o.coordinator.mediaSession.lease := lease_transition_of_not_authority hevent
  have hspec := applyMediaEvent_spec event o.coordinator
  have hstat := applied_of_event event o.coordinator
  have hsame : SameLease o.coordinator
      (ProtocolCoordinator.applyMediaEvent event o.coordinator).2 := by
    refine ⟨hspec.ownership, hspec.exclusiveMediaResources, ?_, ?_, fun hbusy => ?_⟩
    · rw [hspec.mediaSession]
      exact hlease
    · rw [hspec.activeMedia, h.active]
      split_ifs
      · exact hlease
      · rfl
    · rw [hspec.mediaSession]
      exact busy_transition hevent hbusy
  refine ⟨(ProtocolCoordinator.applyMediaEvent event o.coordinator).2, ?_, hsame⟩
  generalize ProtocolCoordinator.applyMediaEvent event o.coordinator = applied at hsame hstat
  obtain ⟨status, c⟩ := applied
  dsimp only at hsame hstat ⊢
  by_cases happ : status = .applied
  · have hvalid := lease_of_applied hevent (hstat.symm.trans happ)
    have hbusy := hsame.busy (h.busy (leaseValid_ne_zero hvalid))
    rw [if_neg (not_not.mpr happ), if_neg hbusy, if_neg (not_not.mpr (by rw [hsame.lease]))]
  · rw [if_pos happ]

lemma onCoordinator_same {effect : ProtocolCoordinator → ProtocolCoordinator}
    (heffect : ∀ c, SameLease c (effect c)) (o : PlaybackObserver) :
    ∃ c, o.onCoordinator effect = { o with coordinator := c } ∧ SameLease o.coordinator c :=
  ⟨effect o.coordinator, rfl, heffect o.coordinator⟩

lemma sameLease_setDesiredResourceMode (mode : ProtocolResourceMode) (c : ProtocolCoordinator) :
    SameLease c (setDesiredResourceMode mode c) := by
  obtain ⟨howner, hexcl, -, hsess, hact, -⟩ := setDesiredResourceMode_spec mode c
  exact ⟨howner, hexcl, by rw [hsess], hact, fun hbusy => by rwa [hsess]⟩

/-! ### Releases -/

/-- Nobody holds the player. -/
structure Unclaimed (o : PlaybackObserver) : Prop where
  active : o.coordinator.activeMedia = .zero
  owned : o.coordinator.ownership.current = .zero
  lease : o.coordinator.mediaSession.lease = .zero
  seen : o.playbackSeenActive = false
  ready : o.mediaReadyMs = 0

lemma Unclaimed.sound (h : o.Unclaimed) : o.Sound where
  active := h.active.trans h.lease.symm
  owned := h.owned.trans h.lease.symm
  lease := .inl h.lease
  newest hlease := absurd h.lease hlease
  busy hlease := absurd h.lease hlease
  tracked hlease := absurd h.lease hlease
  untracked _ := ⟨h.seen, h.ready⟩
  seen_ready _ := h.ready

lemma Unclaimed.same (h : o.Unclaimed) (hsame : SameLease o.coordinator c) :
    ({ o with coordinator := c } : PlaybackObserver).Unclaimed where
  active := hsame.activeMedia.trans h.active
  owned := by
    show c.ownership.current = .zero
    rw [hsame.ownership]
    exact h.owned
  lease := hsame.lease.trans h.lease
  seen := h.seen
  ready := h.ready

variable {ownership : PlayerOwnership}

lemma Sound.released (h : o.Sound) (now : ℕ) (hnone : ownership.current = .zero) :
    (({ o with coordinator := { o.coordinator with ownership } } :
      PlaybackObserver).setActiveMedia now none).Unclaimed := by
  rw [setActiveMedia, applyMediaEvent, if_neg (by simp)]
  have hspec := applyMediaEvent_spec ⟨.released, o.coordinator.mediaSession.lease⟩
    { o.coordinator with ownership }
  have hstat := applied_of_event ⟨.released, o.coordinator.mediaSession.lease⟩
    { o.coordinator with ownership }
  generalize ProtocolCoordinator.applyMediaEvent ⟨.released, o.coordinator.mediaSession.lease⟩
    { o.coordinator with ownership } = applied at hspec hstat
  obtain ⟨status, c⟩ := applied
  dsimp only at hspec hstat ⊢
  obtain ⟨howner, -, -, hsess, hact, -⟩ := hspec
  have howned : c.ownership.current = .zero := by rw [howner, hnone]
  rcases h.lease with hzero | hvalid
  · -- nobody held the player
    have htransition : protocolMediaSessionTransition o.coordinator.mediaSession
        ⟨.released, o.coordinator.mediaSession.lease⟩ = (.stale, o.coordinator.mediaSession) := by
      rw [hzero]
      rfl
    rw [htransition] at hstat hsess hact
    rw [if_pos (by rw [hstat]; nofun)]
    obtain ⟨hseen, hready⟩ := h.untracked (.inl hzero)
    exact ⟨hact.trans (h.active.trans hzero), howned, by rw [hsess]; exact hzero, hseen, hready⟩
  have hbusy := h.busy (leaseValid_ne_zero hvalid)
  have htransition : protocolMediaSessionTransition o.coordinator.mediaSession
      ⟨.released, o.coordinator.mediaSession.lease⟩ =
        (.applied, { protocolMediaSessionInit with
          revision := bumpRevision o.coordinator.mediaSession.revision }) := by
    unfold protocolMediaSessionTransition
    rw [if_neg nofun, if_neg nofun, if_neg (by simp [hvalid])]
    dsimp only
    rw [applyReset, if_neg (by simp [hbusy])]
  rw [htransition] at hstat hsess hact
  rw [if_neg (by simp [hstat]), if_pos (by rw [hsess]; rfl)]
  have hlease : c.mediaSession.lease = .zero := by
    rw [hsess]
    rfl
  exact ⟨hact, howned, hlease, rfl, rfl⟩

lemma Sound.clearMedia (h : o.Sound) (now : ℕ) (hnone : ownership.current = .zero) :
    (({ o with coordinator := { o.coordinator with ownership } } :
      PlaybackObserver).clearMedia now).Unclaimed := by
  have hmode := (h.released now hnone).same (sameLease_setDesiredResourceMode .home _)
  exact hmode.same (applyDiscoverySuspension_spec _ _ _).sameLease

lemma Sound.releaseWith (h : o.Sound) (now : ℕ) {release : PlayerOwnership → Bool × PlayerOwnership}
    (hrel : ∀ ownership, release ownership = (false, ownership) ∨ release ownership = (true, { ownership with current := .zero })) :
    ((o.releaseWith now release).1 ∧ (o.releaseWith now release).2.Unclaimed) ∨
      o.releaseWith now release = (false, o) := by
  rw [PlaybackObserver.releaseWith, onOwnership]
  rcases hrel o.coordinator.ownership with hkept | hreleased
  · right
    rw [hkept]
    rfl
  · left
    rw [hreleased]
    exact ⟨rfl, h.clearMedia now rfl⟩

lemma release_cases (lease : PlayerOwnershipLease) (ownership : PlayerOwnership) :
    playerOwnershipRelease lease ownership = (false, ownership) ∨
      playerOwnershipRelease lease ownership = (true, { ownership with current := .zero }) := by
  rw [playerOwnershipRelease]
  split_ifs
  · exact .inr rfl
  · exact .inl rfl

lemma releaseCurrent_cases (owner : PlayerMediaOwner) (token : UInt64)
    (ownership : PlayerOwnership) :
    playerOwnershipReleaseCurrent owner token ownership = (false, ownership) ∨
      playerOwnershipReleaseCurrent owner token ownership =
        (true, { ownership with current := .zero }) := by
  rw [playerOwnershipReleaseCurrent]
  split_ifs
  · exact .inr rfl
  · exact .inl rfl

/-! ### Claims -/

/-- A lease has been granted, and nothing observed of its media. -/
structure Claimed (o : PlaybackObserver) : Prop where
  sound : o.Sound
  seen : o.playbackSeenActive = false
  ready : o.mediaReadyMs = 0

lemma Claimed.same (h : o.Claimed) (hsame : SameLease o.coordinator c) :
    ({ o with coordinator := c } : PlaybackObserver).Claimed :=
  ⟨h.sound.same hsame, h.seen, h.ready⟩

lemma nextGeneration_newer (counter : UInt32) :
    generationNewer (nextGeneration counter) counter := by
  have hone : counter + 1 - counter = 1 := by grind
  have htwo : counter + 1 + 1 - counter = 2 := by grind
  rw [generationNewer, nextGeneration]
  split_ifs
  · rw [htwo]
    decide
  · rw [hone]
    decide

lemma nextGeneration_ne_self (counter : UInt32) : nextGeneration counter ≠ counter := by
  intro hsame
  have hnewer := nextGeneration_newer counter
  rw [hsame, generationNewer, UInt32.sub_self] at hnewer
  simp at hnewer

variable {previous : PlayerOwnershipLease}

lemma granted_of_claim {owner : PlayerMediaOwner} {token : UInt64}
    {before : PlayerOwnership}
    (hclaim : playerOwnershipClaim owner token before = (some (lease, previous), ownership)) :
    lease.owner ≠ .none ∧ lease.generation = nextGeneration before.nextGeneration ∧
      ownership.current = lease ∧
      ownership.nextGeneration = nextGeneration before.nextGeneration := by
  rw [playerOwnershipClaim] at hclaim
  split_ifs at hclaim with howner
  · cases hclaim
  · cases hclaim
    exact ⟨howner, rfl, rfl, rfl⟩

lemma Sound.claim (h : o.Sound) (now : ℕ) {owner : PlayerMediaOwner} {token : UInt64}
    (hclaim : playerOwnershipClaim owner token o.coordinator.ownership =
      (some (lease, previous), ownership)) :
    (({ o with coordinator := { o.coordinator with ownership } } :
      PlaybackObserver).setActiveMedia now (some lease)).Claimed := by
  obtain ⟨howner, hgen, hcur, hnext⟩ := granted_of_claim hclaim
  have hvalid : leaseValid lease := by
    rw [leaseValid, decide_eq_true_eq, hgen]
    exact ⟨howner, nextGeneration_ne_zero _⟩
  have hgrown : lease.generation ≠ o.coordinator.mediaSession.lease.generation := by
    rcases h.lease with hzero | hheld
    · rw [hzero, hgen]
      exact nextGeneration_ne_zero _
    · rw [h.newest (leaseValid_ne_zero hheld), hgen]
      exact nextGeneration_ne_self _
  have hnewer : o.coordinator.mediaSession.lease.generation = 0 ∨ generationNewer lease.generation
      o.coordinator.mediaSession.lease.generation := by
    rcases h.lease with hzero | hheld
    · rw [hzero]
      exact .inl rfl
    · rw [h.newest (leaseValid_ne_zero hheld), hgen]
      exact .inr (nextGeneration_newer _)
  have htransition : protocolMediaSessionTransition o.coordinator.mediaSession ⟨.claimed, lease⟩ =
      (.applied,
        { lease, lifecycle := .preparing, playback := .unknown, control := .unknown
          revision := bumpRevision o.coordinator.mediaSession.revision }) := by
    unfold protocolMediaSessionTransition
    rw [if_neg nofun, if_pos rfl]
    rw [applyClaim, if_neg (by simp [hvalid]), if_neg, if_neg]
    · rintro ⟨hheld, hstale⟩
      rw [hnewer.resolve_left hheld] at hstale
      cases hstale
    · intro hsame
      exact hgrown (congrArg PlayerOwnershipLease.generation hsame.symm)
  rw [setActiveMedia, applyMediaEvent, if_neg (by simp)]
  have hspec := applyMediaEvent_spec ⟨.claimed, lease⟩ { o.coordinator with ownership }
  have hstat := applied_of_event ⟨.claimed, lease⟩ { o.coordinator with ownership }
  generalize ProtocolCoordinator.applyMediaEvent ⟨.claimed, lease⟩
    { o.coordinator with ownership } = applied at hspec hstat
  obtain ⟨status, c⟩ := applied
  dsimp only at hspec hstat ⊢
  obtain ⟨hownership, -, -, hsess, hact, -⟩ := hspec
  rw [htransition] at hstat hsess hact
  have hsession_lease : c.mediaSession.lease = lease := by rw [hsess]
  have hbusy : c.mediaSession.lifecycle ≠ .idle := by
    rw [hsess]
    nofun
  rw [if_neg (by simp [hstat]), if_neg hbusy,
    if_pos (by rw [hsession_lease]; exact hgrown)]
  refine ⟨⟨?_, ?_, ?_, fun _ => ?_, fun _ => hbusy, fun _ => rfl, fun _ => ⟨rfl, rfl⟩,
    fun _ => rfl⟩, rfl, rfl⟩
  · show c.activeMedia = c.mediaSession.lease
    rw [hact, hsession_lease]
    rfl
  · show c.ownership.current = c.mediaSession.lease
    rw [hownership, hcur, hsession_lease]
  · show c.mediaSession.lease = .zero ∨ leaseValid c.mediaSession.lease = true
    rw [hsession_lease]
    exact .inr hvalid
  · show c.mediaSession.lease.generation = c.ownership.nextGeneration
    rw [hsession_lease, hownership, hnext, hgen]

/-- A claim is granted, and nothing is observed yet, or it leaves everything as it is. -/
lemma Sound.mediaBegin (h : o.Sound) (now : ℕ) (owner : PlayerMediaOwner) (token : UInt64)
    (answer : Bool) :
    (∃ lease, (o.mediaBegin now owner token answer).1 = some lease ∧
        (o.mediaBegin now owner token answer).2.Claimed) ∨
      o.mediaBegin now owner token answer = (none, o) := by
  rw [PlaybackObserver.mediaBegin]
  split_ifs with href
  · exact .inr rfl
  rw [onOwnership]
  cases hclaim : playerOwnershipClaim owner token o.coordinator.ownership with
  | mk granted ownership =>
    obtain _ | ⟨lease, previous⟩ := granted
    · rw [playerOwnershipClaim, if_neg fun hnone => href (.inl hnone)] at hclaim
      cases hclaim
    refine .inl ⟨lease, rfl, ?_⟩
    have hmode := (h.claim now hclaim).same
      (sameLease_setDesiredResourceMode (resourceModeForOwner lease.owner) _)
    exact hmode.same (applyDiscoverySuspension_spec _ _ _).sameLease

/-! ### Observations -/

/-- The observer is on the same lease, with what it has seen. -/
def SameObserver (o o' : PlaybackObserver) : Prop :=
  ∃ c, o' = { o with coordinator := c } ∧ SameLease o.coordinator c

lemma SameObserver.trans {o' o'' : PlaybackObserver} (h : o.SameObserver o')
    (h' : o'.SameObserver o'') : o.SameObserver o'' := by
  obtain ⟨c, rfl, hsame⟩ := h
  obtain ⟨c', rfl, hsame'⟩ := h'
  exact ⟨c', rfl, hsame.trans hsame'⟩

lemma Sound.of_same (h : o.Sound) {o' : PlaybackObserver} (hsame : o.SameObserver o') :
    o'.Sound := by
  obtain ⟨c, rfl, hsame⟩ := hsame
  exact h.same hsame

lemma SameObserver.refl (o : PlaybackObserver) : o.SameObserver o :=
  ⟨o.coordinator, rfl, (SameMedia.refl o.coordinator).sameLease⟩

lemma Sound.announcePlayback (h : o.Sound) (now : ℕ) (active : Bool) :
    o.SameObserver (o.announcePlayback now active) := by
  have hsusp : o.SameObserver
      (o.onCoordinator (applyDiscoverySuspension active (some .playbackActivity))) :=
    onCoordinator_same (fun c => (applyDiscoverySuspension_spec _ _ c).sameLease) o
  rw [PlaybackObserver.announcePlayback]
  split_ifs
  · exact hsusp.trans ((h.of_same hsusp).submit now _)
  · exact hsusp

lemma Sound.submitState (h : o.Sound) (now : ℕ) (state : PlayerState) :
    o.SameObserver (o.submitState now state) := by
  rw [PlaybackObserver.submitState]
  split
  · exact h.submit now _
  · exact SameObserver.refl o

lemma Sound.followLease (h : o.Sound) (now : ℕ) (howner : o.coordinator.activeMedia.owner ≠ .none) :
    o.followLease now = o := by
  have hlease : o.coordinator.mediaSession.lease ≠ .zero := by
    intro hzero
    rw [h.active, hzero] at howner
    exact howner rfl
  rw [PlaybackObserver.followLease, if_neg]
  rw [h.active]
  exact not_not.mpr (h.tracked hlease)

section noted

variable {active terminal : Bool}

/-- The notes that an observation leaves. -/
def noted (o : PlaybackObserver) (now : ℕ) (active terminal : Bool) : PlaybackObserver :=
  (o.noteActive active).noteTerminal now active terminal

lemma noted_coordinator : (o.noted now active terminal).coordinator = o.coordinator := by
  rw [noted, noteTerminal, noteActive]
  split_ifs
  all_goals rfl

lemma noted_generation :
    (o.noted now active terminal).playbackObservedGeneration = o.playbackObservedGeneration := by
  rw [noted, noteTerminal, noteActive]
  split_ifs
  all_goals rfl

lemma noted_seen :
    (o.noted now active terminal).playbackSeenActive = (active || o.playbackSeenActive) := by
  cases active
  · rw [noted, noteTerminal, noteActive]
    split_ifs
    all_goals simp_all
  · rfl

lemma noted_ready (hready : (o.noted now active terminal).mediaReadyMs ≠ 0) :
    active = false ∧
      ((o.noted now active terminal).mediaReadyMs = o.mediaReadyMs ∧
          (terminal = false ∨ o.playbackSeenActive ∨
            resourceReady o.coordinator) ∨
        (o.noted now active terminal).mediaReadyMs = now ∧ terminal ∧
          o.playbackSeenActive = false ∧ resourceReady o.coordinator) := by
  cases active
  · refine ⟨rfl, ?_⟩
    rw [noted, noteActive, if_neg Bool.noConfusion, noteTerminal] at hready ⊢
    split_ifs at hready ⊢ with hterminal hnot htime
    · exact absurd rfl hready
    · simp only [Bool.and_eq_true, Bool.not_eq_true'] at hterminal
      have hres : resourceReady o.coordinator := by simpa using hnot
      exact .inr ⟨rfl, hterminal.1.2, hterminal.2, hres⟩
    · have hres : resourceReady o.coordinator := by simpa using hnot
      exact .inl ⟨rfl, .inr (.inr hres)⟩
    · refine .inl ⟨rfl, ?_⟩
      cases terminal
      · exact .inl rfl
      · exact .inr (.inl (by simpa using hterminal))
  · exact absurd rfl hready

lemma Sound.noted (h : o.Sound) (hexcl : o.coordinator.exclusiveMediaResources)
    (howner : o.coordinator.activeMedia.owner ≠ .none) : (o.noted now active terminal).Sound := by
  refine ⟨?_, ?_, ?_, ?_, ?_, ?_, ?_, fun hseen => ?_⟩
  · simpa only [noted_coordinator] using h.active
  · simpa only [noted_coordinator] using h.owned
  · simpa only [noted_coordinator] using h.lease
  · simpa only [noted_coordinator] using h.newest
  · simpa only [noted_coordinator] using h.busy
  · simpa only [noted_coordinator, noted_generation] using h.tracked
  · rw [noted_coordinator]
    rintro (hzero | hshared)
    · rw [h.active, hzero] at howner
      exact absurd rfl howner
    · rw [hexcl] at hshared
      cases hshared
  · by_contra hready
    obtain ⟨rfl, ⟨hkept, -⟩ | ⟨-, -, hunseen, -⟩⟩ := noted_ready hready
    · rw [noted_seen, Bool.false_or] at hseen
      rw [hkept] at hready
      exact hready (h.seen_ready hseen)
    · rw [noted_seen, hunseen] at hseen
      cases hseen

/-- The section of an observation: nothing to note, or the notes and what is due then. -/
lemma Sound.observeSection (h : o.Sound) :
    o.observeSection now active terminal = (none, o) ∧
        o.playbackSeenActive = false ∧ o.mediaReadyMs = 0 ∨
      o.coordinator.exclusiveMediaResources ∧ o.coordinator.activeMedia.owner ≠ .none ∧
        o.observeSection now active terminal =
          (if releaseDue now terminal (o.noted now active terminal) then
            some o.coordinator.activeMedia else none, o.noted now active terminal) := by
  rw [PlaybackObserver.observeSection]
  by_cases hnone : o.coordinator.exclusiveMediaResources = false ∨
      o.coordinator.activeMedia.owner = .none
  · left
    rw [if_pos hnone]
    refine ⟨rfl, h.untracked ?_⟩
    refine hnone.symm.imp_left fun howner => ?_
    by_contra hlease
    exact h.owner_ne_none hlease howner
  · rw [if_neg hnone]
    rw [not_or] at hnone
    refine .inr ⟨by simpa using hnone.1, hnone.2, ?_⟩
    rw [h.followLease now hnone.2]
    show (if releaseDue now terminal (o.noted now active terminal) then
      some (o.noted now active terminal).coordinator.activeMedia else none, _) = _
    rw [noted_coordinator]
    rfl

end noted

end PlaybackObserver

/-! ## Every run -/

namespace PlaybackRun

/-- What the calls have done accounts for the observer's notes. -/
structure Sound (run : PlaybackRun) : Prop where
  observer : run.observer.Sound
  seen : run.observer.playbackSeenActive = true →
    ∃ observation, Since run.events (.observed observation) PlaybackEvent.IsClaim ∧
      observation.active = true ∧
      observation.media = run.observer.coordinator.activeMedia.generation
  ready : run.observer.mediaReadyMs ≠ 0 →
    ∃ observation, Since run.events (.observed observation) PlaybackEvent.Interrupts ∧
      observation.terminal = true ∧ observation.resourceReady = true ∧
      observation.now = run.observer.mediaReadyMs
  right : Each PlaybackEvent.Right run.events

variable {run : PlaybackRun}

lemma sound_started (config : ProtocolCoordinatorConfig)
    (hasSetDiscoverySuspended hasAirplayReleaseActiveMedia : Bool) :
    (started config hasSetDiscoverySuspended hasAirplayReleaseActiveMedia).Sound := by
  have hunclaimed : (started config hasSetDiscoverySuspended
      hasAirplayReleaseActiveMedia).observer.Unclaimed := ⟨rfl, rfl, rfl, rfl, rfl⟩
  exact ⟨hunclaimed.sound, nofun, absurd rfl, each_nil⟩

variable {o : PlaybackObserver}

lemma Sound.same (h : run.Sound) (hsame : run.observer.SameObserver o) :
    (⟨o, run.events⟩ : PlaybackRun).Sound := by
  have hsound := h.observer.of_same hsame
  obtain ⟨c, rfl, hsame⟩ := hsame
  refine ⟨hsound, fun hseen => ?_, h.ready, h.right⟩
  obtain ⟨observation, hsince, hact, hmedia⟩ := h.seen hseen
  exact ⟨observation, hsince, hact, by rw [hmedia, ← hsame.activeMedia]⟩

variable {events : List PlaybackEvent}

lemma sound_of_unnoted (hobserver : o.Sound)
    (hseen : o.playbackSeenActive = false) (hready : o.mediaReadyMs = 0)
    (hright : Each PlaybackEvent.Right events) : (⟨o, events⟩ : PlaybackRun).Sound := by
  refine ⟨hobserver, fun h => ?_, absurd hready, hright⟩
  rw [show o.playbackSeenActive = true from h] at hseen
  cases hseen

lemma Sound.releaseWith (h : run.Sound) (now : ℕ)
    {release : PlayerOwnership → Bool × PlayerOwnership}
    (hrel : ∀ ownership, release ownership = (false, ownership) ∨ release ownership = (true, { ownership with current := .zero })) :
    (⟨(run.observer.releaseWith now release).2, run.events⟩ : PlaybackRun).Sound := by
  rcases h.observer.releaseWith now hrel with ⟨-, hunclaimed⟩ | hkept
  · exact sound_of_unnoted hunclaimed.sound hunclaimed.seen hunclaimed.ready h.right
  · rw [hkept]
    exact h

lemma Sound.mediaBegin (h : run.Sound) (now : ℕ) (owner : PlayerMediaOwner) (token : UInt64)
    (answer : Bool) : (run.step (.mediaBegin now owner token answer)).Sound := by
  rw [step]
  rcases h.observer.mediaBegin now owner token answer with ⟨lease, hgrant, hclaim⟩ | href
  · generalize run.observer.mediaBegin now owner token answer = result at hgrant hclaim ⊢
    obtain ⟨granted, o⟩ := result
    dsimp only at hgrant hclaim ⊢
    rw [hgrant]
    refine sound_of_unnoted hclaim.sound hclaim.seen hclaim.ready ?_
    exact each_concat.mpr ⟨h.right, trivial⟩
  · rw [href]
    dsimp only
    rw [map_none, toList_none, List.append_nil]
    exact h

variable {media : UInt32}

lemma Sound.noted (h : run.Sound) (now : ℕ) {active terminal : Bool}
    (hexcl : run.observer.coordinator.exclusiveMediaResources)
    (howner : run.observer.coordinator.activeMedia.owner ≠ .none)
    (htakes : run.observer.Takes media active terminal) :
    (⟨run.observer.noted now active terminal, run.events ++ [.observed ⟨media, active, terminal,
      resourceReady run.observer.coordinator, now⟩]⟩ : PlaybackRun).Sound := by
  obtain ⟨hmedia, hpaused⟩ := htakes hexcl howner
  refine ⟨h.observer.noted hexcl howner, fun hseen => ?_, fun hready => ?_, ?_⟩
  · dsimp only at hseen ⊢
    rw [noted_seen] at hseen
    rw [noted_coordinator]
    cases hold : run.observer.playbackSeenActive
    · rw [hold, Bool.or_false] at hseen
      exact ⟨_, since_concat.mpr (.inl rfl), hseen, hmedia hseen hold⟩
    · obtain ⟨observation, hsince, hact, hgen⟩ := h.seen hold
      exact ⟨observation, since_concat.mpr (.inr ⟨hsince, id⟩), hact, hgen⟩
  · dsimp only at hready ⊢
    obtain ⟨rfl, ⟨hkept, hcase⟩ | ⟨hnow, rfl, -, hres⟩⟩ := noted_ready hready
    · rw [hkept] at hready ⊢
      obtain ⟨observation, hsince, hobserved⟩ := h.ready hready
      have hterminal : terminal := by
        by_contra hother
        exact hready (hpaused rfl (by simpa using hother))
      have hres : resourceReady run.observer.coordinator := by
        rcases hcase with hother | hseen | hres
        · rw [hterminal] at hother
          cases hother
        · exact absurd (h.observer.seen_ready hseen) hready
        · exact hres
      refine ⟨observation, since_concat.mpr (.inr ⟨hsince, ?_⟩), hobserved⟩
      exact not_not.mpr ⟨hterminal, hres⟩
    · exact ⟨_, since_concat.mpr (.inl rfl), rfl, hres, hnow.symm⟩
  · exact each_concat.mpr ⟨h.right, trivial⟩

lemma Sound.releasedRightly {observation : PlaybackObservation}
    (h : (⟨o, events ++ [.observed observation]⟩ : PlaybackRun).Sound)
    (hdue : releaseDue observation.now observation.terminal o) :
    ReleasedRightly (events ++ [.observed observation]) o.coordinator.activeMedia := by
  rw [releaseDue, Bool.and_eq_true, Bool.or_eq_true] at hdue
  obtain ⟨hterminal, hcause⟩ := hdue
  refine ⟨observation, List.getLast?_concat, hterminal, hcause.imp h.seen fun hgrace => ?_⟩
  simp only [Bool.and_eq_true, decide_eq_true_eq] at hgrace
  obtain ⟨⟨hpositive, hle⟩, hgrace⟩ := hgrace
  obtain ⟨first, hsince, hfirst, hres, hnow⟩ := h.ready (Nat.pos_iff_ne_zero.mp hpositive)
  refine ⟨first, hsince, hfirst, hres, ?_⟩
  have hstart : first.now = o.mediaReadyMs := hnow
  omega

lemma takes_same {o' : PlaybackObserver} {active terminal : Bool}
    (hsame : o.SameObserver o') (htakes : o.Takes media active terminal) :
    o'.Takes media active terminal := by
  obtain ⟨c, rfl, hsame⟩ := hsame
  rw [PlaybackObserver.Takes] at htakes ⊢
  rwa [hsame.exclusive, hsame.activeMedia]

lemma Sound.observe (h : run.Sound) {now : ℕ} {active terminal : Bool}
    (hsame : run.observer.SameObserver o) (htakes : run.observer.Takes media active terminal) :
    (run.observe now media active terminal o).Sound := by
  have hannounced := hsame.trans ((h.observer.of_same hsame).announcePlayback now active)
  rw [PlaybackRun.observe, observePlayback]
  generalize o.announcePlayback now active = announced at hannounced
  have htakes' := takes_same hannounced htakes
  have hrun := h.same hannounced
  rcases hrun.observer.observeSection with ⟨hsec, hseen, hready⟩ | ⟨hexcl, howner, hsec⟩
  · rw [hsec]
    dsimp only
    rw [map_none, toList_none, List.append_nil]
    exact sound_of_unnoted hrun.observer hseen hready (each_concat.mpr ⟨h.right, trivial⟩)
  have hnoted := hrun.noted now hexcl howner htakes'
  rw [hsec]
  split_ifs with hdue
  · have hright := hnoted.releasedRightly hdue
    rw [noted_coordinator] at hright
    dsimp only
    have hended := hnoted.observer.submit now ⟨.ended, announced.coordinator.activeMedia⟩
    have hstop := hnoted.same hended
    rcases hstop.observer.releaseWith now
      (release_cases announced.coordinator.activeMedia) with
      ⟨hrel, hunclaimed⟩ | hkept
    · dsimp only at hrel hunclaimed
      rw [mediaRelease, hrel]
      refine sound_of_unnoted hunclaimed.sound hunclaimed.seen hunclaimed.ready ?_
      exact each_concat.mpr ⟨hnoted.right, hright⟩
    · dsimp only at hkept
      rw [mediaRelease, hkept]
      rw [if_neg Bool.noConfusion, map_none, toList_none, List.append_nil]
      exact hstop
  · dsimp only
    rw [map_none, toList_none, List.append_nil]
    exact hnoted

/-- **Each call that is taken for what it is keeps the account.** -/
lemma Sound.step (h : run.Sound) {call : PlaybackCall} (htakes : run.observer.TakesCall call) :
    (run.step call).Sound := by
  cases call with
  | mediaBegin now owner token answer => exact h.mediaBegin now owner token answer
  | mediaRelease now lease => exact h.releaseWith now (release_cases lease)
  | mediaReleaseCurrent now owner token =>
    exact h.releaseWith now (releaseCurrent_cases owner token)
  | mediaSubmitEvent now event => exact h.same (h.observer.submit now event)
  | observePlayback now media active terminal =>
    exact h.observe (PlaybackObserver.SameObserver.refl _) htakes
  | observePlayerState now media state =>
    exact h.observe (h.observer.submitState now state) htakes
  | setServiceState service state =>
    exact h.same (onCoordinator_same
      (fun c => (setServiceState_spec service state c).sameLease) _)
  | launchResourceWorker =>
    refine h.same (onCoordinator_same (fun c => ?_) _)
    exact ⟨rfl, rfl, rfl, rfl, id⟩
  | finishResourceWorker target completed success =>
    refine h.same (onCoordinator_same (fun c => ?_) _)
    rw [finishResourceWorker]
    split_ifs
    all_goals exact ⟨rfl, rfl, rfl, rfl, id⟩

end PlaybackRun

/-- **Terminal releases.**  In every run whose observations are taken for what they are, each
terminal release comes with a terminal observation, after an active one of the media of the lease
that is released, or at the end of a grace period in which the resources were ready and every
observation terminal. -/
theorem terminalRelease_right (config : ProtocolCoordinatorConfig)
    (hasSetDiscoverySuspended hasAirplayReleaseActiveMedia : Bool) {run : PlaybackRun}
    (hrun : Relation.ReflTransGen PlaybackMove
      (.started config hasSetDiscoverySuspended hasAirplayReleaseActiveMedia) run) :
    Each PlaybackEvent.Right run.events := by
  have hsound : run.Sound := by
    induction hrun with
    | refl =>
      exact PlaybackRun.sound_started config hasSetDiscoverySuspended hasAirplayReleaseActiveMedia
    | tail _ hmove ih =>
      obtain ⟨call, htakes, rfl⟩ := hmove
      exact ih.step htakes
  exact hsound.right

section calls

instance (o : PlaybackObserver) (media : UInt32) (active terminal : Bool) :
    Decidable (o.Takes media active terminal) :=
  inferInstanceAs (Decidable (_ → _ → _ ∧ _))

instance (o : PlaybackObserver) (call : PlaybackCall) : Decidable (o.TakesCall call) :=
  match call with
  | .observePlayback _ media active terminal =>
    inferInstanceAs (Decidable (o.Takes media active terminal))
  | .observePlayerState _ media state =>
    inferInstanceAs (Decidable (o.Takes media (o.stateActive state)
      (PlaybackObserver.describeState state).2.2))
  | .mediaBegin .. | .mediaRelease .. | .mediaReleaseCurrent .. | .mediaSubmitEvent ..
  | .setServiceState .. | .launchResourceWorker | .finishResourceWorker .. => .isTrue trivial

/-- Whether every one of the calls is taken for what it is. -/
def PlaybackRun.takesAll (run : PlaybackRun) : List PlaybackCall → Bool
  | [] => true
  | call :: calls => decide (run.observer.TakesCall call) && (run.step call).takesAll calls

lemma PlaybackRun.reaches_of_takesAll {calls : List PlaybackCall} :
    ∀ {run : PlaybackRun}, run.takesAll calls →
      Relation.ReflTransGen PlaybackMove run (calls.foldl PlaybackRun.step run) := by
  induction calls with
  | nil => exact fun _ => .refl
  | cons call calls ih =>
    intro run htakes
    rw [PlaybackRun.takesAll, Bool.and_eq_true, decide_eq_true_eq] at htakes
    exact .head ⟨call, htakes.1, rfl⟩ (ih htakes.2)

end calls

/-- An exclusive coordinator without services. -/
def exclusiveConfig : ProtocolCoordinatorConfig := ⟨fun _ => false, true, .none⟩

/-- A claim, its media playing, and its media stopped. -/
def playedOnce : List PlaybackCall :=
  [.mediaBegin 10 .dlna 1 true, .observePlayerState 20 1 .playing,
    .observePlayerState 30 1 .stopped]

theorem terminalRelease_right_played :
    PlaybackEvent.terminalRelease ⟨.dlna, 1, 1⟩ ∈
        (playedOnce.foldl PlaybackRun.step (.started exclusiveConfig false false)).events ∧
      Each PlaybackEvent.Right
        (playedOnce.foldl PlaybackRun.step (.started exclusiveConfig false false)).events := by
  refine ⟨by decide, terminalRelease_right exclusiveConfig false false ?_⟩
  exact PlaybackRun.reaches_of_takesAll (by decide)

/-- A second claim before the media of the first one is observed for the last time. -/
def playedLate : List PlaybackCall :=
  [.mediaBegin 10 .dlna 1 true, .observePlayerState 20 1 .playing, .mediaBegin 30 .dlna 2 true,
    .observePlayerState 40 1 .playing, .observePlayerState 50 1 .stopped]

/-- The second lease is released, and nothing has been observed but the first one's media. -/
theorem terminalRelease_of_earlier_media :
    ¬Each PlaybackEvent.Right
      (playedLate.foldl PlaybackRun.step (.started exclusiveConfig false false)).events := by
  have hevents : (playedLate.foldl PlaybackRun.step (.started exclusiveConfig false false)).events =
      [.claimed ⟨.dlna, 1, 1⟩, .observed ⟨1, true, false, false, 20⟩,
        .claimed ⟨.dlna, 2, 2⟩, .observed ⟨1, true, false, false, 40⟩,
        .observed ⟨1, false, true, false, 50⟩] ++ [.terminalRelease ⟨.dlna, 2, 2⟩] := by
    decide
  rw [hevents, each_concat]
  rintro ⟨-, -, -, -, ⟨observation, hsince, -, hmedia⟩ | ⟨observation, hsince, -, hresources, -⟩⟩
  · have hmem := hsince.mem
    simp only [List.mem_cons, PlaybackEvent.observed.injEq, reduceCtorEq, false_or,
      List.not_mem_nil, or_false] at hmem
    rcases hmem with rfl | rfl | rfl
    all_goals cases hmedia
  · have hmem := hsince.mem
    simp only [List.mem_cons, PlaybackEvent.observed.injEq, reduceCtorEq, false_or,
      List.not_mem_nil, or_false] at hmem
    rcases hmem with rfl | rfl | rfl
    all_goals cases hresources

end NXCast
