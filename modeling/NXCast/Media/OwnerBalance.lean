import NXCast.Framework.Holdings
import NXCast.Media.OwnerDuties

/-!
# The balance of claims and releases

Each program ends with no duty left, so once nobody holds a claim any more each one is recorded or
released, and no claim is released twice.

A `/play` that goes on with the owner of its session expects to find it in its second section,
and releases it otherwise.  That is right only while nobody else touches the owner in between:
`Undisturbed` asks for it.
-/

namespace NXCast

open Interleaving Multiset RemoteVideoPlace Thread Option

/-! ## Programs -/

namespace RemoteVideo

open RemoteVideoWorld

variable {ν : Type} {config : AirPlayRemoteVideoConfig ν} {handler : RemoteVideoHandler}
  {session : UInt64} {start : RemoteVideoWorld ν}

/-- A program that ends with no duty. -/
abbrev Balances {α : Type} (start : RemoteVideoWorld ν) (program : RemoteVideoThread ν α)
    (held : Multiset OwnerDuty) : Prop :=
  Interleaving.Holds Balanced (Undisturbed start) (fun _ held' => held' = 0) program held

/-- A program that leaves the duties alone. -/
abbrev Bystands {α : Type} (start : RemoteVideoWorld ν) (program : RemoteVideoThread ν α)
    (held : Multiset OwnerDuty) : Prop :=
  Interleaving.Holds Balanced (Undisturbed start) (fun _ held' => held' = held) program held

variable {held : Multiset OwnerDuty}

lemma bystands_notify {op : RemoteVideoOp} (hop : handler ≠ .action ∨ op.starts = false)
    (hclaim : op ≠ .claimOwner true) (hrel : ∀ claim, op ≠ .releaseOwner claim)
    (generation : Option UInt32) :
    Bystands start (notify handler session generation op : RemoteVideoThread ν Unit) held :=
  Holds.modify fun world _ h => h.record handler session generation
    (advances_record handler session hop generation world) hclaim hrel

lemma bystands_callback {op : RemoteVideoOp} (hop : handler ≠ .action ∨ op.starts = false)
    (hclaim : op ≠ .claimOwner true) (hrel : ∀ claim, op ≠ .releaseOwner claim)
    (generation : Option UInt32) :
    Bystands start (callback handler session generation op : RemoteVideoThread ν Bool) held :=
  Holds.answer.seq fun _ => (bystands_notify hop hclaim hrel generation).seq fun _ =>
    Holds.pure rfl

lemma bystands_resetHls (hlsGeneration : UInt32) :
    Bystands start (resetHls session hlsGeneration : RemoteVideoThread ν Unit) held :=
  Holds.modify fun _ _ h => h.of_same (advances_of_place rfl rfl rfl rfl fun _ => ⟨rfl, rfl, rfl⟩)
    rfl rfl rfl rfl rfl

lemma bystands_sendHlsEvent (generation : Option UInt32) (event : AirPlayRemoteHlsEvent) :
    Bystands start (sendHlsEvent config handler session generation event) held :=
  Holds.ite (fun _ => Holds.pure rfl)
    fun _ => bystands_callback (.inr rfl) (by simp) (by simp) generation

lemma balances_releaseOwner (hrel : config.releaseOwner) (generation : Option UInt32) (number : ℕ) :
    Balances start (releaseOwner config handler session generation (some number))
      {.claim number session} := by
  refine Holds.ite (fun _ => ?_) fun hmiss => absurd hrel hmiss
  intro world others h _
  refine ⟨0, ?_, rfl⟩
  rw [zero_add]
  exact h.record_release handler session generation

lemma balances_finishPlayback (hrel : config.releaseOwner) (hlsGeneration : UInt32)
    (ended : RemoteVideoEnd) :
    Balances start (finishPlayback config handler session hlsGeneration ended)
      (ownerClaim ended.claim session) := by
  refine (bystands_resetHls hlsGeneration).seq fun _ => Holds.seq ?_ fun _ =>
    Holds.bind (P := fun _ held' => held' = 0) ?_ fun _ held' hheld => Holds.pure hheld
  · exact Holds.ite (fun _ => bystands_callback (.inr rfl) (by simp) (by simp) _)
      fun _ => Holds.pure rfl
  · cases ended.claim with
    | none => exact Holds.pure rfl
    | some number => exact balances_releaseOwner hrel _ number

lemma holds_clearing (config : AirPlayRemoteVideoConfig ν) (session : UInt64) {β : Type} {body : RemoteVideoWorld ν → β × RemoteVideoWorld ν}
    (claim : β → Option ℕ) (hbody : ∀ world, (claim (body world).1 = none ∧
        ∀ all, world.Balanced all → (body world).2.Balanced all) ∨
      (world.remote.ownerSessionId = session ∧
        claim (body world).1 = world.remote.ownerClaimed ∧
        (body world).2 = (world.clearOwner config).nextGeneration)) :
    Interleaving.Holds Balanced (Undisturbed start)
      (fun result held' => held' = ownerClaim (claim result) session) (atomic body) 0 := by
  refine Holds.atomic fun world others h hcalm => ?_
  rw [zero_add] at h
  rcases hbody world with ⟨hclaim, hkeeps⟩ | ⟨hsess, hclaim, hclear⟩
  · refine ⟨0, ?_, ?_⟩
    · rw [zero_add]
      exact hkeeps others h
    · rw [hclaim]
      rfl
  · rw [hclear] at hcalm ⊢
    have hfree := hcalm.free le_rfl (control_nextGeneration_ne rfl)
    refine ⟨ownerClaim world.remote.ownerClaimed world.remote.ownerSessionId, h.clear config hfree, ?_⟩
    rw [hclaim, hsess]

lemma balances_failGeneration (hrel : config.releaseOwner) (failed : UInt32) :
    Balances start (failGeneration config handler session failed) 0 := by
  refine (holds_clearing config session RemoteVideoEnd.claim
    fun world => ?_).bind fun ended held' hheld => ?_
  · unfold failGenerationSection
    split_ifs with hgoing
    · exact .inr ⟨hgoing.2.1, rfl, rfl⟩
    · exact .inl ⟨rfl, fun _ => id⟩
  · rw [hheld]
    exact (balances_finishPlayback hrel failed ended).bind fun _ held' hheld => Holds.pure hheld

/-- The claim that a termination takes over. -/
def terminatedClaim (ended : Option (UInt32 × RemoteVideoEnd)) : Option ℕ :=
  ended.bind fun ended => ended.2.claim

lemma balances_terminateSession (hrel : config.releaseOwner) :
    Balances start (terminateSession config session) 0 := by
  refine Holds.ite (fun _ => Holds.pure rfl) fun _ =>
    (holds_clearing config session terminatedClaim fun world => ?_).bind fun ended held' hheld => ?_
  · unfold terminateSection
    split_ifs with hgoing
    · exact .inr ⟨hgoing.2, rfl, rfl⟩
    · exact .inl ⟨rfl, fun _ => id⟩
  cases ended with
  | none => exact Holds.pure hheld
  | some ended =>
    rw [hheld]
    exact (balances_finishPlayback hrel ended.1 ended.2).bind fun _ held' hheld =>
      Holds.pure hheld

/-! ### `/play` -/

/-- The claim of the playback that a `/play` replaces. -/
def PlayLocals.replacedClaim (locals : PlayLocals) : Multiset OwnerDuty :=
  match locals.replaced with
  | some (session, _, ended) => ownerClaim ended.claim session
  | none => 0

lemma balances_endReplaced (hrel : config.releaseOwner) (locals : PlayLocals) :
    Balances start (endReplaced config locals) locals.replacedClaim := by
  unfold endReplaced PlayLocals.replacedClaim
  refine Holds.bind (P := fun _ held' => held' = 0) ?_ fun _ held' hheld => ?_
  · cases locals.replaced with
    | none => exact Holds.pure rfl
    | some replaced =>
      exact (balances_finishPlayback hrel _ _).bind fun _ held' hheld => Holds.pure hheld
  · rw [hheld]
    exact bystands_resetHls 0

/-- The place a `/play` of a URL makes. -/
def PlayLocals.place (locals : PlayLocals) (session : UInt64) : RemoteVideoPlace :=
  ⟨.active, session, locals.generation⟩

/-- What the first section of a `/play` of a URL is answerable for after it: the owner it goes on
with, or the generation it is to complete. -/
inductive PlayDuty (start : RemoteVideoWorld ν) (session : UInt64) (locals : PlayLocals) :
    Multiset OwnerDuty → Prop where
  | goesOn (number : ℕ) (hreuse : locals.reuseOwner = true) :
    PlayDuty start session locals {.continuing (locals.place session, some number)}
  | completes (change : ℕ) (hreuse : locals.reuseOwner = false) (hafter : start.changes < change)
      (hgeneration : locals.generation = UInt32.ofNat change) :
    PlayDuty start session locals {.ticket change}

variable {world : RemoteVideoWorld ν} {play : AirPlayRemotePlayRequest ν}

/-- What a `/play` replaces it takes over, if it does not go on with it. -/
lemma replacedClaim_playSection {reverseHls : Bool} (h : world.Guarded)
    (hreuse : (playSection config session play reverseHls world).1.reuseOwner = false) :
    (playSection config session play reverseHls world).1.replacedClaim =
      ownerClaim world.remote.ownerClaimed world.remote.ownerSessionId := by
  by_cases hidle : world.remote.state = .idle
  · have howner := h.unclaimed (by rw [hidle]; decide)
    simp [PlayLocals.replacedClaim, playSection, hidle, howner]
  have hreplace : (playSection config session play reverseHls world).1.replaced =
      some (world.remote.ownerSessionId, world.remote.generation,
        ⟨world.remote.state = .active, world.remote.ownerClaimed⟩) := by
    simp only [playSection] at hreuse ⊢
    simp [hidle, hreuse]
  rw [PlayLocals.replacedClaim, hreplace]

/-- The first section of a `/play` of a locator takes over what it replaces. -/
lemma holds_playHlsSection (play : AirPlayRemotePlayRequest ν) :
    Interleaving.Holds Balanced (Undisturbed start) (fun locals held' => held' = locals.replacedClaim)
      (atomic (playSection config session play true)) 0 := by
  refine Holds.atomic fun world others h hcalm => ?_
  rw [zero_add] at h
  have hreuse : (playSection config session play true world).1.reuseOwner = false := rfl
  have hfree := hcalm.free le_rfl (control_nextGeneration_ne rfl)
  have hguarded := (advances_playSection config session play true world).1 h.guarded
  refine ⟨_, ?_, (replacedClaim_playSection h.guarded hreuse).symm⟩
  exact h.replace hfree hguarded rfl

/-- A `/play` that goes on with the owner of its session leaves it where it is. -/
lemma playSection_reuse (hreuse : (playSection config session play false world).1.reuseOwner) :
    ∃ remote number, remote.generation = world.remote.generation ∧
      remote.ownerClaimed = world.remote.ownerClaimed ∧
      remote.ownerSessionId = world.remote.ownerSessionId ∧
      (playSection config session play false world).2 =
        { world with remote := remote, continuing := world.continuing + 1 }.nextGeneration ∧
      (playSection config session play false world).1.replacedClaim = 0 ∧
      (playSection config session play false world).2.control =
        ((playSection config session play false world).1.place session, some number) := by
  have hgoing : world.remote.state = .active ∧ world.remote.ownerSessionId = session ∧
      world.remote.ownerClaimed.isSome := by
    simpa [playSection, and_assoc] using hreuse
  obtain ⟨hact, hsess, howner⟩ := hgoing
  obtain ⟨number, hnumber⟩ := isSome_iff_exists.mp howner
  refine ⟨{ (playSection config session play false world).2.remote with
    generation := world.remote.generation }, number, rfl, ?_, ?_, ?_, ?_, ?_⟩
  · simp [playSection, RemoteVideoWorld.nextGeneration, hact, hsess, hnumber]
  · simp [playSection, RemoteVideoWorld.nextGeneration, hsess]
  · simp [playSection, RemoteVideoWorld.nextGeneration, hact, hsess, hnumber]
  · simp [playSection, PlayLocals.replacedClaim, hact, hsess, hnumber]
  · simp [playSection, RemoteVideoWorld.nextGeneration, RemoteVideoWorld.control, AirPlayRemoteVideo.place,
      PlayLocals.place, hact, hsess, hnumber]

/-- The first section of a `/play` of a URL goes on with the owner of its session, or takes over
what it replaces and is to be completed. -/
lemma holds_playDirectSection (play : AirPlayRemotePlayRequest ν) :
    Interleaving.Holds Balanced (Undisturbed start)
      (fun locals held' => ∃ duty, PlayDuty start session locals duty ∧
        held' = locals.replacedClaim + duty)
      (atomic (playSection config session play false)) 0 := by
  refine Holds.atomic fun world others h hcalm => ?_
  rw [zero_add] at h
  have hguarded := (advances_playSection config session play false world).1 h.guarded
  cases hreuse : (playSection config session play false world).1.reuseOwner with
  | true =>
    obtain ⟨remote, number, hgeneration, howner, hsess, hworld, hrepl, hctl⟩ :=
      playSection_reuse hreuse
    have hfree : world.continuing = 0 := by
      rw [hworld] at hcalm
      exact hcalm.free (Nat.le_succ _) (control_nextGeneration_ne hgeneration)
    refine ⟨{.continuing (playSection config session play false world).2.control}, ?_,
      {.continuing (playSection config session play false world).2.control}, ?_, ?_⟩
    · rw [hworld, hfree] at hguarded ⊢
      exact h.reuse hfree hguarded howner hsess
    · rw [hctl]
      exact .goesOn number hreuse
    · rw [hrepl, zero_add]
  | false =>
    have howner : (playSection config session play false world).2.remote.ownerClaimed = none := by
      simp only [playSection, RemoteVideoWorld.nextGeneration] at hreuse ⊢
      rw [hreuse]
      rfl
    have hcont : (playSection config session play false world).2.continuing =
        world.continuing := by
      simp only [playSection, RemoteVideoWorld.nextGeneration] at hreuse ⊢
      rw [hreuse]
      rfl
    have hfree := hcalm.free hcont.ge (control_nextGeneration_ne rfl)
    obtain ⟨remote, hworld, hrem⟩ : ∃ remote, (playSection config session play false world).2 =
        { world with remote := remote }.nextGeneration ∧ remote.ownerClaimed = none := by
      refine ⟨{ (playSection config session play false world).2.remote with
        generation := world.remote.generation }, ?_, howner⟩
      simp only [playSection, RemoteVideoWorld.nextGeneration] at hreuse ⊢
      rw [hreuse]
      rfl
    have hbal : (playSection config session play false world).2.Balanced
        (ownerClaim world.remote.ownerClaimed world.remote.ownerSessionId + others) := by
      rw [hworld] at hguarded ⊢
      exact h.replace hfree hguarded hrem
    refine ⟨{.ticket (world.changes + 1)} +
      ownerClaim world.remote.ownerClaimed world.remote.ownerSessionId, ?_,
      {.ticket (world.changes + 1)}, ?_, ?_⟩
    · rw [add_assoc, singleton_add]
      refine hbal.addTicket (fun change hchg => ?_) (by simp [playSection, RemoteVideoWorld.nextGeneration]) howner
      rw [filterMap_add, asTicket_ownerClaim, zero_add] at hchg
      exact Nat.lt_succ_of_le (h.current change hchg).1
    · refine .completes _ hreuse (Nat.lt_succ_of_le hcalm.1) ?_
      show world.remote.generation + 1 = UInt32.ofNat (world.changes + 1)
      rw [h.guarded.numbered, UInt32.ofNat_add]
      rfl
    · rw [replacedClaim_playSection h.guarded hreuse, add_comm]

lemma holds_claimOwner (hhand : handler ≠ .action) (generation : Option UInt32) :
    Interleaving.Holds Balanced (Undisturbed start) (fun claim held' => held' = ownerClaim claim session + held)
      (claimOwner handler session generation : RemoteVideoThread ν (Option ℕ)) held := by
  refine Holds.answer.seq fun granted => Holds.atomic fun world others h _ => ?_
  cases granted with
  | true =>
    refine ⟨_, ?_, rfl⟩
    rw [if_pos rfl, ownerClaim_some, singleton_add, cons_add]
    exact h.record_claim handler session generation
      (advances_record handler session (.inl hhand) generation world)
  | false =>
    refine ⟨held, ?_, (zero_add held).symm⟩
    exact h.record handler session generation
      (advances_record handler session (.inl hhand) generation world) (by simp) (by simp)

/-- What is left to do after `load` and `play`. -/
def StartDuty (session : UInt64) (outcome : StartOutcome) (held : Multiset OwnerDuty) : Prop :=
  match outcome with
  | .started => held = 0
  | .failed claim => held = ownerClaim claim session
  | _ => False

variable {claim : Option ℕ}

/-- `load` and `play` in a world that has recorded its owner. -/
lemma balanced_startPlayback (config : AirPlayRemoteVideoConfig ν) (handler : RemoteVideoHandler)
    {others : Multiset OwnerDuty} {going : UInt32} (h : world.Balanced others)
    (hplace : world.remote.place = ⟨.active, session, going⟩)
    (hclaim : claim = world.remote.ownerClaimed) (url metadata : List UInt8) (loaded played : Bool)
    (hfree : (startPlayback config handler session url metadata loaded played going claim
      world).2.control ≠ world.control → world.continuing = 0) :
    ∃ held', (startPlayback config handler session url metadata loaded played going claim
        world).2.Balanced (held' + others) ∧
      StartDuty session (startPlayback config handler session url metadata loaded played going claim
        world).1 held' := by
  have hload : (world.record handler session (some going) (.load url metadata)).Balanced others :=
    h.record handler session _ (advances_record_started handler session hplace rfl) (by simp)
      (by simp)
  obtain ⟨world', hworld', hbal, hctl, hcont⟩ : ∃ world',
      world' = (if loaded then (world.record handler session (some going)
          (.load url metadata)).record handler session (some going) .play
        else world.record handler session (some going) (.load url metadata)) ∧
      world'.Balanced others ∧ world'.control = world.control ∧
      world'.continuing = world.continuing := by
    refine ⟨_, rfl, ?_, ?_, ?_⟩
    · split
      · exact hload.record handler session _ (advances_record_started handler session hplace rfl)
          (by simp) (by simp)
      · exact hload
    · split
      · rfl
      · rfl
    · split
      · rfl
      · rfl
  have howner : world'.remote.ownerClaimed = claim := by
    rw [hclaim]
    exact congrArg Prod.snd hctl
  have hsess : world'.remote.ownerSessionId = session := by
    have hsame : world'.remote.place = world.remote.place := congrArg Prod.fst hctl
    rw [hplace] at hsame
    exact congrArg ownerSessionId hsame
  simp only [startPlayback, ← hworld'] at hfree ⊢
  split_ifs with hfailed
  · refine ⟨0, ?_, rfl⟩
    rw [zero_add]
    exact hbal
  rw [if_neg hfailed] at hfree
  have hgeneration : world'.remote.generation = world.remote.generation :=
    congrArg (fun control => control.1.generation) hctl
  have hfree := hfree (control_nextGeneration_ne hgeneration)
  refine ⟨ownerClaim world'.remote.ownerClaimed world'.remote.ownerSessionId,
    hbal.clear config (by rw [hcont, hfree]), ?_⟩
  show _ = ownerClaim claim session
  rw [howner, hsess]

/-- What is left to do after the second section of a `/play`. -/
def CompleteDuty (config : AirPlayRemoteVideoConfig ν) (session : UInt64) (claim : Option ℕ)
    (outcome : StartOutcome) (held : Multiset OwnerDuty) : Prop :=
  match outcome with
  | .stale => held = ownerClaim claim session ∧ (config.claimOwner = true → claim.isSome = true)
  | outcome => StartDuty session outcome held

/-- The rest of a `/play` after its second section. -/
lemma balances_completePlay (hrel : config.releaseOwner) {locals : PlayLocals}
    (hsec : ∀ loaded played, Interleaving.Holds Balanced (Undisturbed start) (CompleteDuty config session claim) (atomic (completePlaySection config session play locals claim loaded played)) held)
    (hclaim : config.claimOwner = false → claim = none) (response : AirPlayRtspResponse) :
    Balances start (completePlay config session play locals claim response) held := by
  refine Holds.answer.seq fun loaded => Holds.answer.seq fun played =>
    (hsec loaded played).bind fun outcome held' hduty => ?_
  cases outcome with
  | started => exact Holds.pure hduty
  | failed claim' =>
    rw [hduty]
    refine (bystands_callback (.inr rfl) (by simp) (by simp) _).seq fun _ =>
      Holds.bind (P := fun _ held' => held' = 0) ?_ fun _ held' hheld => Holds.pure hheld
    cases claim' with
    | none => exact Holds.pure rfl
    | some number => exact balances_releaseOwner hrel _ number
  | refused => exact hduty.elim
  | stale =>
    obtain ⟨hheld, hsome⟩ := hduty
    rw [hheld]
    refine Holds.ite (fun hclaims => ?_) fun hclaims => ?_
    · obtain ⟨number, rfl⟩ := isSome_iff_exists.mp (hsome hclaims)
      exact (balances_releaseOwner hrel _ number).bind fun _ held' hheld => Holds.pure hheld
    · rw [hclaim (Bool.eq_false_iff.mpr hclaims)]
      exact Holds.pure rfl

lemma StartDuty.complete {outcome : StartOutcome} (h : StartDuty session outcome held) :
    CompleteDuty config session claim outcome held := by
  cases outcome with
  | stale => exact h.elim
  | refused | failed | started => exact h

/-- A playback that is started stays where it was put, or its generation ends. -/
lemma startPlayback_control (config : AirPlayRemoteVideoConfig ν) (handler : RemoteVideoHandler)
    (session : UInt64) (world : RemoteVideoWorld ν) (url metadata : List UInt8)
    (loaded played : Bool) (going : UInt32) (claim : Option ℕ) :
    (startPlayback config handler session url metadata loaded played going claim
        world).2.continuing = world.continuing ∧
      ((startPlayback config handler session url metadata loaded played going claim
          world).2.control = world.control ∨
        (startPlayback config handler session url metadata loaded played going claim
          world).2.remote.generation = world.remote.generation + 1) := by
  cases loaded with
  | true =>
    cases played with
    | true => exact ⟨rfl, .inl rfl⟩
    | false => exact ⟨rfl, .inr rfl⟩
  | false => exact ⟨rfl, .inr rfl⟩

section Complete

variable {play : AirPlayRemotePlayRequest ν} {locals : PlayLocals} (loaded played : Bool)

/-- The second section of a `/play` that goes on with the owner of its session. -/
lemma holds_completeReuse {number : ℕ} (hreuse : locals.reuseOwner) :
    Interleaving.Holds Balanced (Undisturbed start) (CompleteDuty config session none)
      (atomic (completePlaySection config session play locals none loaded played))
      {.continuing (locals.place session, some number)} := by
  refine Holds.atomic fun world others h _ => ?_
  obtain ⟨hctl, hone, hbal⟩ := h.goOn
  have hplace : world.remote.place = ⟨.active, session, locals.generation⟩ :=
    congrArg Prod.fst hctl
  have hsec : completePlaySection config session play locals none loaded played world =
      startPlayback config .play session play.url play.metadata loaded played locals.generation
        world.remote.ownerClaimed
        { world with
          continuing := world.continuing - 1
          remote := { world.remote with controlAttached := true } } := by
    unfold completePlaySection
    simp [hplace, hreuse]
  rw [hsec]
  obtain ⟨held', hafter, hduty⟩ := balanced_startPlayback config .play
    hbal hplace rfl play.url play.metadata loaded played fun _ => by
      show world.continuing - 1 = 0
      rw [hone]
  exact ⟨held', hafter, hduty.complete⟩

variable {change : ℕ} (hreuse : locals.reuseOwner = false) (hafter : start.changes < change)
  (hgeneration : locals.generation = UInt32.ofNat change)

include hreuse hafter hgeneration

/-- The second section of a `/play` that has claimed the player. -/
lemma holds_completeClaimed {number : ℕ} (hclaim : config.claimOwner) :
    Interleaving.Holds Balanced (Undisturbed start) (CompleteDuty config session (some number))
      (atomic (completePlaySection config session play locals (some number) loaded played))
      ({.claim number session} + {.ticket change}) := by
  refine Holds.atomic fun world others h hcalm => ?_
  rw [add_assoc, singleton_add, singleton_add, cons_swap] at h
  by_cases hplace : world.remote.place = ⟨.active, session, locals.generation⟩
  · have hsec : completePlaySection config session play locals (some number) loaded played
        world = startPlayback config .play session play.url play.metadata loaded played
          locals.generation (some number)
          { world with
            remote := { world.remote with
              ownerClaimed := some number
              controlAttached := true } } := by
      unfold completePlaySection
      simp [hplace, hreuse, hclaim]
    have hadv := (advances_completePlaySection config session play locals (some number) loaded
      played world).2
    have hticket := h.current change (by rw [asTicket_ticket]; exact mem_cons_self _ _)
    have hchg : change = world.changes := by
      refine h.change_eq hcalm hadv hafter hticket.1 ?_
      rw [← hgeneration]
      exact congrArg generation hplace
    have howner := (hticket.2 hchg).2
    rw [hsec] at hcalm ⊢
    have hfree : world.continuing = 0 := by
      obtain ⟨hcont, hmoved⟩ := startPlayback_control config .play session { world with
          remote := { world.remote with
            ownerClaimed := some number
            controlAttached := true } } play.url play.metadata loaded played locals.generation
          (some number)
      refine hcalm.free hcont.ge fun hsame => ?_
      rcases hmoved with hstays | hnext
      · rw [hstays] at hsame
        have howner' : some number = world.remote.ownerClaimed := congrArg Prod.snd hsame
        rw [howner] at howner'
        cases howner'
      · have hgeneration := congrArg (fun control => control.1.generation) hsame
        exact generation_succ_ne _ (hnext.symm.trans hgeneration)
    have hbal := h.recordOwner hfree (congrArg state hplace) (congrArg ownerSessionId hplace) hchg
    obtain ⟨held', hafter, hduty⟩ := balanced_startPlayback config .play hbal hplace rfl play.url play.metadata loaded played fun _ => hfree
    exact ⟨held', hafter, hduty.complete⟩
  · have hsec : completePlaySection config session play locals (some number) loaded played
        world = (.stale, world) := by
      unfold completePlaySection
      simp [hplace, hreuse]
    rw [hsec]
    refine ⟨{.claim number session}, ?_, rfl, fun _ => rfl⟩
    exact h.dropTicket

/-- The second section of a `/play` where there is no claiming of the player. -/
lemma holds_completeUnclaimed (hclaim : config.claimOwner = false) :
    Interleaving.Holds Balanced (Undisturbed start) (CompleteDuty config session none)
      (atomic (completePlaySection config session play locals none loaded played))
      {.ticket change} := by
  refine Holds.atomic fun world others h hcalm => ?_
  rw [singleton_add] at h
  by_cases hplace : world.remote.place = ⟨.active, session, locals.generation⟩
  · have hsec : completePlaySection config session play locals none loaded played world =
        startPlayback config .play session play.url play.metadata loaded played locals.generation
          none world := by
      unfold completePlaySection
      simp [hplace, hreuse, hclaim]
    have hadv := (advances_completePlaySection config session play locals none loaded played
      world).2
    have hticket := h.current change (by rw [asTicket_ticket]; exact mem_cons_self _ _)
    have hchg : change = world.changes := by
      refine h.change_eq hcalm hadv hafter hticket.1 ?_
      rw [← hgeneration]
      exact congrArg generation hplace
    have howner := (hticket.2 hchg).2
    rw [hsec] at hcalm ⊢
    obtain ⟨held', hafter, hduty⟩ := balanced_startPlayback config .play
      h.dropTicket hplace howner.symm play.url play.metadata loaded played
      (hcalm.free (startPlayback_control config .play session world play.url play.metadata
        loaded played locals.generation none).1.ge)
    exact ⟨held', hafter, hduty.complete⟩
  · have hsec : completePlaySection config session play locals none loaded played world =
        (.stale, world) := by
      unfold completePlaySection
      simp [hplace, hreuse]
    rw [hsec]
    refine ⟨0, ?_, rfl, fun hmiss => ?_⟩
    · rw [zero_add]
      exact h.dropTicket
    · rw [hclaim] at hmiss
      cases hmiss

end Complete

/-- A refused `/play` gives up its generation. -/
lemma holds_refused {locals : PlayLocals} {change : ℕ} (hafter : start.changes < change)
    (hgeneration : locals.generation = UInt32.ofNat change) :
    Balances start (modify (refusedSection config session locals)) {.ticket change} := by
  intro world others h hcalm
  rw [singleton_add] at h
  refine ⟨0, ?_, rfl⟩
  rw [zero_add]
  have hadv := (advances_refusedSection config session locals world).2
  unfold refusedSection at hcalm hadv ⊢
  split_ifs with hgoing
  · rw [if_pos hgoing] at hcalm hadv
    have hticket := h.current change (by rw [asTicket_ticket]; exact mem_cons_self _ _)
    have hchg : change = world.changes := by
      refine h.change_eq hcalm hadv hafter hticket.1 ?_
      rw [← hgeneration]
      exact hgoing.1
    refine h.dropTicket.leave (hticket.2 hchg).2 ?_
    rcases hcalm.2.2 with hfree | hless | hsame
    · exact .inl hfree
    · exact absurd hless (lt_irrefl _)
    · exact .inr hsame
  · exact h.dropTicket

lemma balances_playDirect (hrel : config.releaseOwner) (play : AirPlayRemotePlayRequest ν)
    (response : AirPlayRtspResponse) :
    Balances start (playDirect config session play response) 0 := by
  refine (holds_playDirectSection play).bind fun locals held' hheld => ?_
  obtain ⟨duty, hduty, rfl⟩ := hheld
  refine ((balances_endReplaced hrel locals).frame duty).bind fun _ held' hheld => ?_
  obtain ⟨rest, rfl, hrest⟩ := hheld
  rw [hrest, zero_add]
  cases hduty with
  | goesOn number hreuse =>
    refine Holds.ite (fun hclaim => ?_) fun _ => ?_
    · rw [hreuse] at hclaim
      exact absurd hclaim.1 (by decide)
    · exact balances_completePlay hrel
        (fun loaded played => holds_completeReuse loaded played hreuse) (fun _ => rfl) response
  | completes change hreuse hafter hgeneration =>
    refine Holds.ite (fun hclaim => ?_) fun hmiss => ?_
    · refine (holds_claimOwner (by decide) _).bind fun claim held' hheld => ?_
      cases claim with
      | none =>
        rw [hheld, ownerClaim_none, zero_add]
        exact (holds_refused hafter hgeneration).bind fun _ held' hheld => Holds.pure hheld
      | some number =>
        rw [hheld]
        refine balances_completePlay hrel (fun loaded played => ?_) (fun hmiss => ?_) response
        · exact holds_completeClaimed loaded played hreuse hafter hgeneration hclaim.2
        · rw [hclaim.2] at hmiss
          cases hmiss
    · have hclaim : config.claimOwner = false := by
        simpa [hreuse] using hmiss
      exact balances_completePlay hrel (fun loaded played =>
        holds_completeUnclaimed loaded played hreuse hafter hgeneration hclaim) (fun _ => rfl)
        response

lemma balances_playHls (hrel : config.releaseOwner) (play : AirPlayRemotePlayRequest ν)
    (controlPort : UInt16) (appleSessionId : CString) (response : AirPlayRtspResponse) :
    Balances start (playHls config session play controlPort appleSessionId response) 0 := by
  refine (holds_playHlsSection play).bind fun locals held' hheld => ?_
  rw [hheld]
  refine (balances_endReplaced hrel locals).bind fun _ held' hheld => ?_
  rw [hheld]
  refine Holds.seq ?_ fun begun => Holds.seq ?_ fun accepted =>
    Holds.ite (fun _ => Holds.pure rfl) fun _ =>
      (balances_failGeneration hrel _).bind fun _ held' hheld => Holds.pure hheld
  · exact Holds.atomic_keeps fun world _ h =>
      h.of_same (advances_of_place rfl rfl rfl rfl fun _ => ⟨rfl, rfl, rfl⟩) rfl rfl rfl rfl rfl
  · split
    · exact bystands_sendHlsEvent _ _
    · exact Holds.pure rfl

lemma balances_handlePlay (hrel : config.releaseOwner) (request : AirPlayRtspRequest)
    (response : AirPlayRtspResponse) :
    Balances start (handlePlay config session request response) 0 := by
  refine Holds.ite (fun _ => Holds.pure rfl) fun _ => ?_
  split
  · exact Holds.pure rfl
  refine Holds.ite (fun _ => ?_) fun _ => balances_playDirect hrel _ response
  split
  · exact Holds.pure rfl
  · exact Holds.ite (fun _ => Holds.pure rfl) fun _ => Holds.get.seq fun _ =>
      Holds.ite (fun _ => Holds.pure rfl) fun _ => balances_playHls hrel _ _ _ response

/-! ### `/action` -/

/-- What is left to do after the section that starts a READY. -/
def ReadyDuty (session : UInt64) (outcome : StartOutcome) (held : Multiset OwnerDuty) : Prop :=
  match outcome with
  | .failed claim => held = ownerClaim claim session
  | _ => held = 0

lemma StartDuty.ready {outcome : StartOutcome} (h : StartDuty session outcome held) :
    ReadyDuty session outcome held := by
  cases outcome with
  | stale | refused => exact h.elim
  | failed | started => exact h

/-- A READY whose claim is granted starts its playback in a world that has recorded the claim. -/
lemma readySection_granted (config : AirPlayRemoteVideoConfig ν) {action : AirPlayRemoteHlsAction}
    (hplace : world.remote.place = ⟨.pendingHls, session, action.generation⟩)
    (loaded played : Bool) :
    ∃ world', (∀ others, (world.record .action session (some action.generation)
            (.claimOwner true)).Balanced
          (.claim (grantedClaims world.trace).length session ::ₘ others) →
          world.continuing = 0 → world'.Balanced others) ∧
      world'.control = (⟨.active, session, action.generation⟩,
        some (grantedClaims world.trace).length) ∧
      world'.continuing = world.continuing ∧
      readySection config session action true loaded played world =
        startPlayback config .action session action.playbackUrl world.remote.pendingMetadata
          loaded played action.generation (some (grantedClaims world.trace).length) world' := by
  have hstate : world.remote.state = .pendingHls := congrArg state hplace
  have hsess : world.remote.ownerSessionId = session :=
    congrArg ownerSessionId hplace
  have hgeneration : world.remote.generation = action.generation :=
    congrArg generation hplace
  have hpend : ¬hlsPending session action.generation world = false := by
    simp only [hlsPending, hplace, decide_true, Bool.true_eq_false, not_false_eq_true]
  refine ⟨{ world.record .action session (some action.generation) (.claimOwner true) with
    remote := { world.remote with
      state := .active
      ownerClaimed := some (grantedClaims world.trace).length
      controlAttached := true } }, fun others h hfree => ?_, ?_, rfl, ?_⟩
  · exact h.recordReady hfree hstate hsess
  · show ((⟨.active, world.remote.ownerSessionId, world.remote.generation⟩, _) :
      RemoteVideoControl) = _
    rw [hsess, hgeneration]
  · unfold readySection
    rw [if_neg hpend]
    rfl

lemma holds_readySection (action : AirPlayRemoteHlsAction) (granted loaded played : Bool) :
    Interleaving.Holds Balanced (Undisturbed start) (ReadyDuty session)
      (atomic (readySection config session action granted loaded played)) 0 := by
  refine Holds.atomic fun world others h hcalm => ?_
  rw [zero_add] at h
  by_cases hpend : hlsPending session action.generation world = false
  · have hsec : readySection config session action granted loaded played world =
        (.stale, world) := by
      unfold readySection
      rw [if_pos hpend]
    rw [hsec]
    refine ⟨0, ?_, rfl⟩
    rw [zero_add]
    exact h
  have hplace : world.remote.place = ⟨.pendingHls, session, action.generation⟩ := by
    simpa only [hlsPending, decide_eq_false_iff_not, not_not] using hpend
  have hstate : world.remote.state = .pendingHls := congrArg state hplace
  have hclaim : ∀ granted, world.Advances
      (world.record .action session (some action.generation) (.claimOwner granted)) := by
    refine fun granted => ⟨fun h => h.record fun _ _ => ?_, le_rfl⟩
    simp only [RemoteVideoEvent.Current, hplace, RemoteVideoOp.startsIn, and_self]
  cases granted with
  | false =>
    have hsec : readySection config session action false loaded played world = (.refused,
        world.record .action session (some action.generation) (.claimOwner false)) := by
      unfold readySection
      rw [if_neg hpend]
      rfl
    rw [hsec]
    refine ⟨0, ?_, rfl⟩
    rw [zero_add]
    exact h.record .action session _ (hclaim false) (by simp) (by simp)
  | true =>
    have hrec := h.record_claim .action session _ (hclaim true)
    obtain ⟨world', hbal, hctl, hcont, hsec⟩ :=
      readySection_granted config hplace loaded played
    rw [hsec] at hcalm ⊢
    have hfree : world.continuing = 0 := by
      obtain ⟨hstays, hmoved⟩ := startPlayback_control config .action session world'
        action.playbackUrl world.remote.pendingMetadata loaded played action.generation
        (some (grantedClaims world.trace).length)
      refine hcalm.free (by rw [hstays, hcont]) fun hsame => ?_
      rcases hmoved with hput | hnext
      · rw [hput, hctl] at hsame
        have hact : AirPlayRemoteVideoSessionState.active = world.remote.state :=
          congrArg (fun control => control.1.state) hsame
        rw [hstate] at hact
        cases hact
      · have hsame := congrArg (fun control => control.1.generation) hsame
        have hput := congrArg (fun control => control.1.generation) hctl
        have hgeneration := congrArg generation hplace
        exact generation_succ_ne _ (hnext.symm.trans (hsame.trans (hgeneration.trans hput.symm)))
    obtain ⟨held', hafter, hduty⟩ := balanced_startPlayback config .action
      (hbal others hrec hfree) (congrArg Prod.fst hctl)
      (congrArg Prod.snd hctl).symm action.playbackUrl world.remote.pendingMetadata loaded
      played fun _ => by rw [hcont, hfree]
    exact ⟨held', hafter, hduty.ready⟩

lemma balances_handleReady (hrel : config.releaseOwner) (action : AirPlayRemoteHlsAction)
    (response : AirPlayRtspResponse) :
    Balances start (handleReady config session action response) 0 := by
  refine Holds.ite (fun _ => Holds.get.seq fun _ => Holds.ite (fun _ => ?_)
    fun _ => Holds.pure rfl) fun _ => Holds.answer.seq fun granted => Holds.answer.seq fun loaded =>
      Holds.answer.seq fun played => (holds_readySection action granted loaded played).bind
        fun outcome held' hduty => ?_
  · exact (balances_failGeneration hrel _).bind fun _ held' hheld => Holds.pure hheld
  cases outcome with
  | stale | started => exact Holds.pure hduty
  | refused =>
    rw [hduty]
    exact (balances_failGeneration hrel _).bind fun _ held' hheld => Holds.pure hheld
  | failed claim =>
    rw [hduty]
    exact (balances_finishPlayback hrel _ ⟨true, claim⟩).bind fun _ held' hheld =>
      Holds.pure hheld

lemma balances_handleAction (hrel : config.releaseOwner) (request : AirPlayRtspRequest)
    (response : AirPlayRtspResponse) :
    Balances start (handleAction config session request response) 0 := by
  refine Holds.ite (fun _ => Holds.pure rfl) fun _ => Holds.ite (fun _ => Holds.pure rfl) fun _ =>
    Holds.seq ?_ fun taken => Holds.ite (fun _ => Holds.pure rfl) fun _ => ?_
  · exact Holds.atomic_keeps fun world _ h =>
      h.of_same (advances_of_place rfl rfl rfl rfl fun _ => ⟨rfl, rfl, rfl⟩) rfl rfl rfl rfl rfl
  split
  · exact Holds.pure rfl
  · refine Holds.get.seq fun _ => Holds.ite (fun _ => ?_) fun _ => Holds.pure rfl
    refine Holds.seq ?_ fun _ => Holds.ite (fun _ => Holds.pure rfl) fun _ =>
      (balances_failGeneration hrel _).bind fun _ held' hheld => Holds.pure hheld
    split
    · exact bystands_sendHlsEvent _ _
    · exact Holds.pure rfl
  · exact balances_handleReady hrel _ response

/-! ### The other calls -/

/-- A section that changes no more than the pending seeks, the rate or the control connection. -/
lemma bystands_section {β : Type} {body : RemoteVideoWorld ν → β × RemoteVideoWorld ν}
    (hadv : ∀ world, Advances world (body world).2)
    (hbody : ∀ world, (body world).2.control = world.control ∧ (body world).2.changes = world.changes ∧ (body world).2.trace = world.trace ∧ (body world).2.continuing = world.continuing) :
    Bystands start (atomic body) held := by
  refine Holds.atomic_keeps fun world _ h => ?_
  obtain ⟨hctl, hchg, htrace, hcont⟩ := hbody world
  exact h.of_same (hadv world) hctl hchg (by rw [htrace]) (by rw [htrace]) hcont

lemma bystands_readSnapshot :
    Bystands start (readSnapshot : RemoteVideoThread ν (Option AirPlayRemoteVideoSnapshot)) held :=
  Holds.answer.seq fun _ => Holds.get.seq fun _ => Holds.pure rfl

lemma bystands_applyPendingSeek (snapshot : AirPlayRemoteVideoSnapshot) :
    Bystands start (applyPendingSeek config handler session snapshot) held := by
  refine Holds.ite (fun _ => Holds.pure rfl) fun _ => Holds.seq ?_ fun target => ?_
  · refine bystands_section (advances_pendingSeekSection config session snapshot) fun world => ?_
    unfold pendingSeekSection
    split
    · exact ⟨rfl, rfl, rfl, rfl⟩
    · exact ⟨rfl, rfl, rfl, rfl⟩
  · cases target with
    | none => exact Holds.pure rfl
    | some target => exact bystands_callback (.inr rfl) (by simp) (by simp) none

lemma bystands_snapshotForSession :
    Bystands start (snapshotForSession config handler session) held := by
  refine Holds.get.seq fun _ => Holds.ite (fun _ => bystands_readSnapshot.seq fun snapshot => ?_)
    fun _ => Holds.pure rfl
  cases snapshot with
  | none => exact Holds.pure rfl
  | some snapshot =>
    exact (bystands_applyPendingSeek snapshot).seq fun _ =>
      Holds.ite (fun _ => bystands_readSnapshot) fun _ => Holds.pure rfl

variable (request : AirPlayRtspRequest)

lemma bystands_handleRate (response : AirPlayRtspResponse) :
    Bystands start (handleRate config session request response) held := by
  refine Holds.ite (fun _ => Holds.pure rfl) fun _ => Holds.get.seq fun _ =>
    Holds.ite (fun _ => ?_) fun _ => Holds.pure rfl
  split
  · exact Holds.pure rfl
  refine Holds.ite (fun _ => Holds.pure rfl) fun _ => Holds.seq ?_ fun _ =>
    Holds.ite (fun _ => Holds.pure rfl) fun _ => Holds.seq ?_ fun _ =>
      Holds.ite (fun _ => Holds.pure rfl) fun _ => Holds.pure rfl
  · refine bystands_section (advances_rateSection session _) fun world => ?_
    unfold rateSection
    split
    · exact ⟨rfl, rfl, rfl, rfl⟩
    · exact ⟨rfl, rfl, rfl, rfl⟩
  · split
    · exact bystands_callback (.inr rfl) (by simp) (by simp) none
    · exact bystands_callback (.inl (by decide)) (by simp) (by simp) none

lemma bystands_handleScrub (response : AirPlayRtspResponse) :
    Bystands start (handleScrub config session request response) held := by
  refine Holds.get.seq fun _ => Holds.ite (fun _ => Holds.ite (fun _ => ?_) fun _ =>
    Holds.ite (fun _ => ?_) fun _ => Holds.pure rfl) fun _ => Holds.pure rfl
  · split
    · exact Holds.pure rfl
    refine Holds.seq ?_ fun _ => Holds.ite (fun _ => Holds.pure rfl) fun _ =>
      Holds.ite (fun _ => Holds.pure rfl) fun _ =>
        (bystands_callback (.inr rfl) (by simp) (by simp) none).seq fun _ =>
          Holds.ite (fun _ => Holds.seq ?_ fun _ => Holds.pure rfl) fun _ => Holds.pure rfl
    · refine bystands_section (advances_scrubSection session _) fun world => ?_
      unfold scrubSection
      split
      · exact ⟨rfl, rfl, rfl, rfl⟩
      · exact ⟨rfl, rfl, rfl, rfl⟩
    · refine Holds.modify fun world _ h => ?_
      have hadv := advances_scrubbedSection session world
      unfold scrubbedSection at hadv ⊢
      split_ifs with howned
      · rw [if_pos howned] at hadv
        exact h.of_same hadv rfl rfl rfl rfl rfl
      · exact h
  · refine bystands_snapshotForSession.seq fun snapshot => ?_
    cases snapshot with
    | none | some => exact Holds.pure rfl

lemma bystands_handlePlaybackInfo (response : AirPlayRtspResponse) :
    Bystands start (handlePlaybackInfo config session request response) held := by
  refine Holds.ite (fun _ => Holds.pure rfl) fun _ => Holds.get.seq fun _ => Holds.seq ?_
    fun snapshot => ?_
  · exact Holds.ite (fun _ => Holds.pure rfl) fun _ => bystands_snapshotForSession
  cases snapshot with
  | none => exact Holds.pure rfl
  | some snapshot =>
    refine Holds.get.seq fun _ => ?_
    split
    · exact Holds.pure rfl
    · exact Holds.pure rfl

lemma balances_handleStop (hrel : config.releaseOwner) (request : AirPlayRtspRequest)
    (response : AirPlayRtspResponse) :
    Balances start (handleStop config session request response) 0 := by
  refine Holds.ite (fun _ => Holds.pure rfl) fun _ =>
    (balances_terminateSession hrel).bind fun ended held' hheld => ?_
  cases ended with
  | none | some => exact Holds.pure hheld

lemma balances_route (hrel : config.releaseOwner) (request : AirPlayRtspRequest)
    (response : AirPlayRtspResponse) :
    Balances start (airplayRemoteVideoRoute config session request response) 0 := by
  refine Holds.ite (fun _ => Holds.pure rfl) fun _ => Holds.seq ?_ fun _ => Holds.seq ?_ fun _ => ?_
  · refine bystands_section (advances_reattachSection session) fun world => ?_
    unfold reattachSection
    split
    · exact ⟨rfl, rfl, rfl, rfl⟩
    · exact ⟨rfl, rfl, rfl, rfl⟩
  · exact Holds.ite (fun _ => bystands_notify (.inr rfl) (by simp) (by simp) none)
      fun _ => Holds.pure rfl
  refine Holds.ite (fun _ => ?_) fun _ => Holds.ite (fun _ => ?_) fun _ =>
    Holds.ite (fun _ => ?_) fun _ => Holds.ite (fun _ => ?_) fun _ =>
      Holds.ite (fun _ => ?_) fun _ => Holds.ite (fun _ => ?_) fun _ => Holds.pure rfl
  · exact (balances_handlePlay hrel request response).bind fun _ _ hheld => Holds.pure hheld
  · exact (balances_handleAction hrel request response).bind fun _ _ hheld => Holds.pure hheld
  · exact (bystands_handleRate request response).seq fun _ => Holds.pure rfl
  · exact (bystands_handleScrub request response).seq fun _ => Holds.pure rfl
  · exact (bystands_handlePlaybackInfo request response).seq fun _ => Holds.pure rfl
  · exact (balances_handleStop hrel request response).bind fun _ _ hheld => Holds.pure hheld

lemma balances_sessionClosed : Balances start (airplayRemoteVideoSessionClosed config session) 0 := by
  refine Holds.ite (fun _ => Holds.pure rfl) fun _ => Holds.seq ?_ fun outcome => ?_
  · refine Holds.atomic fun world others h hcalm => ?_
    have hadv := advances_closedSection config session world
    rw [zero_add] at h
    refine ⟨0, ?_, rfl⟩
    rw [zero_add]
    unfold closedSection at hcalm hadv ⊢
    split
    · rename_i hpend
      rw [if_pos hpend] at hcalm
      have hstate : world.remote.state = .pendingHls := by
        simp only [sessionHlsPending, decide_eq_true_eq] at hpend
        exact hpend.1
      have howner := h.guarded.unclaimed (by rw [hstate]; decide)
      have hclear := h.clear config (hcalm.free le_rfl (control_nextGeneration_ne rfl))
      rwa [howner, ownerClaim_none, zero_add] at hclear
    · rename_i hpend
      rw [if_neg hpend] at hadv
      split_ifs with howned
      · rw [if_pos howned] at hadv
        exact h.of_same hadv rfl rfl rfl rfl rfl
      · exact h
  · cases outcome with
    | pending generation => exact bystands_resetHls generation
    | detached =>
      exact Holds.ite (fun _ => bystands_notify (.inr rfl) (by simp) (by simp) none)
        fun _ => Holds.pure rfl
    | other => exact Holds.pure rfl

end RemoteVideo

/-- A call that gives up the playback without giving back the claim: its caller has lost the
player already. -/
def RemoteVideoCall.relinquishes : RemoteVideoCall → Bool
  | .relinquishSession _ => true
  | _ => false

open RemoteVideo in
lemma RemoteVideoCall.balances_program {ν : Type} {config : AirPlayRemoteVideoConfig ν}
    (hrel : config.releaseOwner) {call : RemoteVideoCall} (hcall : call.relinquishes = false)
    (start : RemoteVideoWorld ν) : Balances start (call.program config) 0 := by
  cases call with
  | route session request response =>
    exact (balances_route hrel request response).bind fun _ _ hheld => Holds.pure hheld
  | sessionClosed session => exact balances_sessionClosed
  | terminateSession session =>
    refine Holds.bind (P := fun _ held' => held' = 0) ?_ fun _ _ hheld => Holds.pure hheld
    exact (balances_terminateSession hrel).bind fun _ _ hheld => Holds.pure hheld
  | relinquishSession session => cases hcall
  | environment player controlPort =>
    exact Holds.modify fun world _ h =>
      h.of_same (advances_of_place rfl rfl rfl rfl fun _ => ⟨rfl, rfl, rfl⟩) rfl rfl rfl rfl rfl

/-! ## Runs -/

namespace RemoteVideoWorld

variable {ν : Type} {world : RemoteVideoWorld ν} {all : Multiset OwnerDuty}

lemma Balanced.released (h : world.Balanced all) : (releasedClaims world.trace).Nodup ∧
    ∀ entry ∈ releasedClaims world.trace, entry ∈ numberedClaims world.trace := by
  have hle : (releasedClaims world.trace : Multiset (Option ℕ × UInt64)) ≤
      numberedClaims world.trace := by
    rw [← h.claims]
    exact le_add_left _ _
  constructor
  · exact coe_nodup.mp (nodup_of_le hle (coe_nodup.mpr (nodup_numberedClaims _)))
  · exact fun entry hentry => mem_coe.mp (mem_of_le hle (mem_coe.mpr hentry))

/-- Where nothing is held, the claims that are released are those that are not recorded. -/
lemma Balanced.mem_released (h : world.Balanced 0) {number : ℕ} {session : UInt64}
    (hgrant : (grantedClaims world.trace)[number]? = some session) :
    (some number, session) ∈ releasedClaims world.trace ↔
      world.remote.ownerClaimed ≠ some number := by
  have hmem : (some number, session) ∈ numberedClaims world.trace :=
    mem_numberedClaims.mpr ⟨number, rfl, hgrant⟩
  have hclaim := h.claims
  have hnodup := coe_nodup.mpr (nodup_numberedClaims world.trace)
  rw [add_zero] at hclaim
  rw [← hclaim] at hnodup
  rw [← mem_coe, ← hclaim, mem_add] at hmem
  cases howner : world.remote.ownerClaimed with
  | none =>
    rw [howner] at hmem
    exact iff_of_true (hmem.resolve_left (notMem_zero _)) (some_ne_none _).symm
  | some other =>
    have hrec : (ownerClaim (some other) world.remote.ownerSessionId).filterMap
        OwnerDuty.asClaim = {(some other, world.remote.ownerSessionId)} := rfl
    rw [howner, hrec] at hclaim hnodup hmem
    by_cases hother : other = number
    · subst hother
      refine iff_of_false (fun hrel => ?_) (fun hne => hne rfl)
      -- the recorded claim is the same, so it is in no other part
      have howned : (some other, world.remote.ownerSessionId) ∈ numberedClaims world.trace := by
        rw [← mem_coe, ← hclaim]
        exact mem_add.mpr (.inl (mem_singleton_self _))
      obtain ⟨number, hnumber, hsess⟩ := mem_numberedClaims.mp howned
      cases hnumber
      have hsame : session = world.remote.ownerSessionId :=
        some.inj (hgrant.symm.trans hsess)
      rw [hsame] at hrel
      exact disjoint_left.mp (nodup_add.mp hnodup).2.2 (mem_singleton_self _) hrel
    · refine iff_of_true (hmem.resolve_left fun hsame => ?_) fun hsame => ?_
      · rw [mem_singleton, Prod.mk.injEq, some.injEq] at hsame
        exact hother hsame.1.symm
      · exact hother (some.inj hsame)

end RemoteVideoWorld

/-- A move that no `/play` is disturbed by: while one goes on with the owner of its session, nobody
else changes where the module is, and fewer than 2³² generations pass during a call.  Giving up a
playback without its claim is left out. -/
def UndisturbedMove {ν : Type} (p : Pool (RemoteVideoWorld ν) Unit RemoteVideoCall)
    (label : Label RemoteVideoCall) (p' : Pool (RemoteVideoWorld ν) Unit RemoteVideoCall) : Prop :=
  match label with
  | .call _ call => call.relinquishes = false
  | .run id _ =>
    match p.calls id with
    | none => True
    | some c => p'.state.changes < c.start.changes + 2 ^ 32 ∧
      (p.state.continuing = 0 ∨ p'.state.continuing < p.state.continuing ∨
        p'.state.control = p.state.control)
  | .ret _ => True

instance {ν : Type} (p p' : Pool (RemoteVideoWorld ν) Unit RemoteVideoCall)
    (label : Label RemoteVideoCall) : Decidable (UndisturbedMove p label p') :=
  match label with
  | .call _ call => inferInstanceAs (Decidable (call.relinquishes = false))
  | .run id _ => by
    unfold UndisturbedMove
    dsimp only
    exact match p.calls id with
      | none => isTrue trivial
      | some c => inferInstanceAs (Decidable (_ ∧ _))
  | .ret _ => isTrue trivial

lemma UndisturbedMove.permits {ν : Type} {p p' : Pool (RemoteVideoWorld ν) Unit RemoteVideoCall}
    {label : Label RemoteVideoCall} (h : UndisturbedMove p label p')
    (hsince : p.Since RemoteVideoWorld.Advances) :
    p.Permits (fun call => call.relinquishes = false) RemoteVideoWorld.Undisturbed label p' := by
  constructor
  · rintro id call rfl
    exact h
  · rintro id answer c rfl hcall
    simp only [UndisturbedMove, hcall] at h
    exact ⟨(hsince id c hcall).1.2, h⟩

open Pool in
/-- **The owner balance.**  In a run of undisturbed moves every release gives back a claim that was
granted for the same session, and none twice; once all calls have returned, a granted claim is
released exactly once, unless the module still records it. -/
theorem remoteVideo_ownerBalance {ν : Type} (config : AirPlayRemoteVideoConfig ν)
    (hrelease : config.releaseOwner = true) (player : AirPlayRemoteVideoSnapshot)
    (controlPort : UInt16) {p : Pool (RemoteVideoWorld ν) Unit RemoteVideoCall}
    (hrun : Run (RemoteVideoCall.program config) UndisturbedMove
      (initial (.initial config player controlPort)) p) :
    (releasedClaims p.state.trace).Nodup ∧
    (∀ claim session, (claim, session) ∈ releasedClaims p.state.trace →
      ∃ number, claim = some number ∧ (grantedClaims p.state.trace)[number]? = some session) ∧
    (p.Quiescent → ∀ number session, (grantedClaims p.state.trace)[number]? = some session →
      ((some number, session) ∈ releasedClaims p.state.trace ↔
        p.state.remote.ownerClaimed ≠ some number)) := by
  obtain ⟨-, hsince⟩ := Since.of_run RemoteVideoWorld.Advances.refl
    (fun _ _ _ => RemoteVideoWorld.Advances.trans) (RemoteVideo.sectionsKeep_advances config).keeps_program
    (Since.initial _) hrun
  have hheld : p.Held RemoteVideoWorld.Balanced RemoteVideoWorld.Undisturbed :=
    Held.of_run (fun _ _ _ hmove => hmove.1.permits hmove.2) (fun call hcall start => call.balances_program hrelease hcall start)
      (Held.initial (.initial config player controlPort)) hsince
  obtain ⟨all, hbalanced⟩ := hheld.exists_inv
  obtain ⟨hnodup, hgranted⟩ := hbalanced.released
  refine ⟨hnodup, fun claim session hmem => mem_numberedClaims.mp (hgranted _ hmem), ?_⟩
  exact fun hquiescent number session => (hheld.of_quiescent hquiescent).mem_released

/-- Two `/play` requests of one session, each until it has returned, and the end of the session. -/
def replayMoves : List (Label RemoteVideoCall) :=
  playMoves 0 ++ remoteVideoMoves 1 (.route 7 playRequest playResponse) (List.replicate 6 true) ++
    [.ret 1] ++ remoteVideoMoves 2 (.terminateSession 7) (List.replicate 5 true) ++ [.ret 2]

lemma replay_run :
    ((Pool.initial .plain).checkedSteps (RemoteVideoCall.program .plain) UndisturbedMove
      replayMoves).map (fun p => (grantedClaims p.state.trace, releasedClaims p.state.trace)) =
      some ([7], [(some 0, 7)]) := by
  decide +kernel

theorem remoteVideo_ownerBalance_replay :
    ∃ p, (Pool.initial .plain).checkedSteps (RemoteVideoCall.program .plain) UndisturbedMove
        replayMoves = some p ∧
      grantedClaims p.state.trace = [7] ∧ (releasedClaims p.state.trace).Nodup ∧
      releasedClaims p.state.trace ≠ [] := by
  obtain ⟨p, hsteps, hfacts⟩ := Option.map_eq_some_iff.mp replay_run
  rw [Prod.mk.injEq] at hfacts
  have hrun : Pool.Run (RemoteVideoCall.program .plain) UndisturbedMove
      (.initial (.initial .plain .empty 7000)) p :=
    Pool.Run.of_checkedSteps hsteps
  obtain ⟨hnodup, -, -⟩ := remoteVideo_ownerBalance .plain rfl .empty 7000 hrun
  exact ⟨p, hsteps, hfacts.1, hnodup, by rw [hfacts.2]; exact List.cons_ne_nil _ _⟩

/-- A `/play` goes on with the owner of its session, and the session ends between its sections. -/
def releasedTwiceMoves : List (Label RemoteVideoCall) :=
  playMoves 0 ++ remoteVideoMoves 1 (.route 7 playRequest playResponse) (List.replicate 3 true) ++
    remoteVideoMoves 2 (.terminateSession 7) (List.replicate 5 true) ++ [.ret 2] ++
    List.replicate 4 (.run 1 true)

lemma releasedTwice_run :
    ((Pool.initial .plain).steps (RemoteVideoCall.program .plain) releasedTwiceMoves).map
      (fun p => (grantedClaims p.state.trace, (releasedClaims p.state.trace).map Prod.snd)) =
      some ([7], [7, 7]) := by
  decide +kernel

/-- The `/play` finds its generation gone and releases an owner that is released already. -/
theorem remoteVideo_releasedTwice :
    ¬ ∀ p, Pool.Run (RemoteVideoCall.program .plain) (fun _ _ _ => True)
        (.initial RemoteVideoWorld.plain) p →
      ∀ session, ((releasedClaims p.state.trace).map Prod.snd).count session ≤
        (grantedClaims p.state.trace).count session := by
  intro hbalance
  obtain ⟨p, hsteps, hfacts⟩ := Option.map_eq_some_iff.mp releasedTwice_run
  rw [Prod.mk.injEq] at hfacts
  have hcount := hbalance p (Pool.Run.of_steps hsteps fun _ _ => trivial) 7
  rw [hfacts.1, hfacts.2] at hcount
  exact absurd hcount (by decide)

end NXCast
