import NXCast.App.Coordinator
import NXCast.Player.LeaseOrder
import NXCast.Rtsp.Text

/-!
# Takeovers that are aborted

A caller of `protocol_coordinator_media_begin` takes the player over from whoever has it, opens its
media, and ends the transaction, or aborts it if the resources or the OPEN fail.  The transaction keeps
the previous lease, and `protocol_coordinator_media_abort` gives back the new one only.

The callers act beside the steps of the player, and an OPEN goes through its actor.  `transition` is the
caller that has the transition lock, and `media` what the backend has open, with the claim of the OPEN;
`aborts` are the transactions that were aborted, newest first, with the ownership and the media before
and behind the abort.
-/

namespace NXCast

open PlayerOwnership

/-! ## Media -/

/-- What the backend has open, and whether it has been stopped. -/
structure OpenMedia where
  claim : Option ℕ
  stopped : Bool
deriving DecidableEq

/-- The media after a command of a claim has been executed. -/
def mediaAfter (kind : MediaActorCommandKind) (claim : Option ℕ) (ok : Bool)
    (media : Option OpenMedia) : Option OpenMedia :=
  if ok = false then media
  else
    match kind with
    | .openMedia => some ⟨claim, false⟩
    -- `libmpv_play` loads what was stopped again
    | .play => media.map fun opened => { opened with stopped := false }
    | .stop | .stopAny | .quiesce => media.map fun opened => { opened with stopped := true }
    | _ => media

/-- The media after a step of the player. -/
def PlayerSystem.mediaAfter (s : PlayerSystem) (media : Option OpenMedia) :
    PlayerStep → Option OpenMedia
  | .executed ok =>
    match s.actor.worker with
    | .executing key _ =>
      match s.actor.requests key with
      | none => media
      | some request =>
        if s.actor.directs ≠ [] then media
        else NXCast.mediaAfter request.command.kind (s.carried key) ok media
    | _ => media
  | .directDone ok =>
    match s.actor.directs, s.directs with
    | .executing command _ :: _, claim :: _ => NXCast.mediaAfter command.kind claim ok media
    | _, _ => media
  | _ => media

/-! ## Callers -/

/-- A transaction, the claim that it made, and the one that it took the player over from. -/
structure MediaClaim where
  transaction : ProtocolMediaTransaction
  claim : ℕ
  previousClaim : ℕ
deriving DecidableEq

/-- Where a caller is: the test of `protocol_coordinator_media_begin` was passed, the player claimed, or
an OPEN put to the actor as `request`. -/
inductive MediaCaller where
  | idle
  | checked (owner : PlayerMediaOwner) (token : UInt64)
  | holding (claim : MediaClaim)
  | opening (claim : MediaClaim) (request : ℕ)
deriving DecidableEq

/-- Who has the player, and what is open. -/
structure MediaMoment where
  current : PlayerOwnershipLease
  media : Option OpenMedia
deriving DecidableEq

/-- A transaction that was aborted. -/
structure MediaAbort where
  claim : MediaClaim
  before : MediaMoment
  after : MediaMoment
deriving DecidableEq

/-- The player and the callers of the coordinator. -/
structure MediaSystem where
  player : PlayerSystem
  media : Option OpenMedia
  transition : Option ℕ
  callers : ℕ → MediaCaller
  aborts : List MediaAbort

namespace MediaSystem

def initial : MediaSystem := ⟨.initial, none, none, fun _ => .idle, []⟩

variable (config : MediaActorConfig) (s : MediaSystem)

def moment : MediaMoment := ⟨s.player.ownership.current, s.media⟩

variable (id : ℕ)

/-- A caller goes on. -/
def setCaller (caller : MediaCaller) : MediaSystem :=
  { s with callers := Function.update s.callers id caller }

/-- The test of `protocol_coordinator_media_begin` under the transition lock, which a caller that goes on
keeps. -/
def check (owner : PlayerMediaOwner) (token : UInt64) (accepts exclusive : Bool) :
    MediaSystem :=
  let previous := s.player.ownership.current
  if s.transition ≠ none ∨ s.callers id ≠ .idle ∨ owner = .none ∨ accepts = false then s
  else if exclusive ∧ previous.owner ≠ .none ∧
      resourceModeForOwner previous.owner ≠ resourceModeForOwner owner then s
  else { s.setCaller id (.checked owner token) with transition := some id }

/-- The claim of `protocol_coordinator_media_begin`, which ends the section. -/
def claim (id : ℕ) : MediaSystem :=
  match s.callers id with
  | .checked owner token =>
    match playerOwnershipClaim owner token s.player.ownership with
    | (none, _) => { s.setCaller id .idle with transition := none }
    | (some (lease, previous), ownership) =>
      { s.setCaller id (.holding
          { transaction := ⟨true, lease, previous⟩
            claim := s.player.ownership.claims.length
            previousClaim := s.player.ownership.claims.length - 1 }) with
        player := { s.player with ownership }
        transition := none }
  | _ => s

/-- The source of an owner's commands. -/
def sourceOfOwner : PlayerMediaOwner → PlayerCommandSource
  | .dlna => .dlna
  | .iptv => .iptv
  | .airplayVideo => .airplayVideo
  | .airplayMirror => .airplayMirror
  | .none => .app

/-- The caller puts its OPEN to the player; the submission may be refused before it comes to the
actor. -/
def openMedia (id : ℕ) (uri metadata : Option (List UInt8))
    (autoplay initialized wait forever : Bool) : MediaSystem :=
  match s.callers id with
  | .holding held =>
    let lease := held.transaction.lease
    let player := s.player.submit config
      (.request ⟨.openMedia, sourceOfOwner lease.owner, lease, uri, metadata, none, 0, autoplay⟩)
      (some held.claim) initialized wait forever
    if player.actor.created = s.player.actor.created then s
    else { s.setCaller id (.opening held s.player.actor.created) with player }
  | _ => s

/-- The call that put an OPEN to the actor has returned. -/
def openReturned (request : ℕ) (succeeded : Bool) : Bool :=
  match s.player.actor.calls request with
  | .returned status => playerCommandStatusSucceeded (playerCommandStatusFromActor status) == succeeded
  | _ => false

/-- `protocol_coordinator_media_abort`, after the resources or the OPEN have failed. -/
def abortClaim (held : MediaClaim) : MediaSystem :=
  let next : MediaSystem :=
    { s.setCaller id .idle with
      player := { s.player with
        ownership := (playerOwnershipRelease held.transaction.lease s.player.ownership).2 } }
  { next with aborts := ⟨held, s.moment, next.moment⟩ :: s.aborts }

def abort : MediaSystem :=
  if s.transition ≠ none then s
  else
    match s.callers id with
    | .holding held => s.abortClaim id held
    | .opening held request => if s.openReturned request false then s.abortClaim id held else s
    | _ => s

/-- `protocol_coordinator_media_end`, after the OPEN was accepted. -/
def finish : MediaSystem :=
  match s.callers id with
  | .opening _ request => if s.openReturned request true then s.setCaller id .idle else s
  | _ => s

end MediaSystem

/-- A step of the player, of a caller, or the end of what is open. -/
inductive TakeoverStep where
  | player (step : PlayerStep)
  | check (id : ℕ) (owner : PlayerMediaOwner) (token : UInt64) (accepts exclusive : Bool)
  | claim (id : ℕ)
  | openMedia (id : ℕ) (uri metadata : Option (List UInt8))
      (autoplay initialized wait forever : Bool)
  | abort (id : ℕ)
  | finish (id : ℕ)
  | ended

/-- What a step does; one that its thread cannot take does nothing. -/
def takeoverStep (config : MediaActorConfig) (s : MediaSystem) : TakeoverStep → MediaSystem
  | .player step =>
    { s with player := playerStep config s.player step, media := s.player.mediaAfter s.media step }
  | .check id owner token accepts exclusive => s.check id owner token accepts exclusive
  | .claim id => s.claim id
  | .openMedia id uri metadata autoplay initialized wait forever =>
    s.openMedia config id uri metadata autoplay initialized wait forever
  | .abort id => s.abort id
  | .finish id => s.finish id
  | .ended => { s with media := s.media.map fun opened => { opened with stopped := true } }

/-- The states of the runs. -/
def TakeoverReachable (config : MediaActorConfig) (s : MediaSystem) : Prop :=
  Runs.Reachable (takeoverStep config) .initial (fun _ _ => True) s

namespace MediaAbort

variable (aborted : MediaAbort)

/-- The player was taken over from an owner of the same resource mode. -/
def SameMode : Prop :=
  aborted.claim.transaction.previous.owner ≠ .none ∧
    resourceModeForOwner aborted.claim.transaction.previous.owner =
      resourceModeForOwner aborted.claim.transaction.lease.owner

/-- The media that were opened under the previous lease. -/
def PreviousPlays (moment : MediaMoment) : Prop :=
  moment.media = some ⟨some aborted.claim.previousClaim, false⟩

/-- The previous owner has the player back or its media are stopped, and nothing plays without an
owner. -/
def Restored : Prop :=
  (aborted.after.current = aborted.claim.transaction.previous ∨
    ¬aborted.PreviousPlays aborted.after) ∧
  ((∃ opened, aborted.after.media = some opened ∧ opened.stopped = false) →
    aborted.after.current.owner ≠ .none)

/-- Before the abort the previous owner's media are stopped, and where nothing is stopped somebody else
has the player by now. -/
def Quiet : Prop :=
  (aborted.before.current = aborted.claim.transaction.previous ∨
    ¬aborted.PreviousPlays aborted.before) ∧
  ((∃ opened, aborted.before.media = some opened ∧ opened.stopped = false) →
    aborted.before.current.owner ≠ .none ∧
      aborted.before.current ≠ aborted.claim.transaction.lease)

/-- What the abort has done. -/
structure Faithful (aborted : MediaAbort) : Prop where
  media : aborted.after.media = aborted.before.media
  current : aborted.after.current =
    if aborted.claim.transaction.lease = aborted.before.current then .zero
    else aborted.before.current

lemma Faithful.restored_iff {aborted : MediaAbort} (h : aborted.Faithful) :
    aborted.Restored ↔ aborted.Quiet := by
  have hplays : aborted.PreviousPlays aborted.after ↔ aborted.PreviousPlays aborted.before := by
    unfold PreviousPlays
    rw [h.media]
  unfold Restored Quiet
  rw [hplays, h.media, h.current]
  by_cases hlease : aborted.claim.transaction.lease = aborted.before.current
  · rw [if_pos hlease]
    by_cases hopen : ∃ opened, aborted.before.media = some opened ∧ opened.stopped = false
    · refine iff_of_false (fun hrestored => ?_) fun hquiet => ?_
      · exact hrestored.2 hopen rfl
      · exact (hquiet.2 hopen).2 hlease.symm
    · have hstop : ¬aborted.PreviousPlays aborted.before := fun hprev =>
        hopen ⟨_, hprev, rfl⟩
      exact iff_of_true ⟨.inr hstop, fun h => absurd h hopen⟩ ⟨.inr hstop, fun h => absurd h hopen⟩
  · rw [if_neg hlease]
    refine and_congr .rfl (imp_congr .rfl ?_)
    exact ⟨fun howner => ⟨howner, fun hsame => hlease hsame.symm⟩, (·.1)⟩

end MediaAbort

/-! ## Runs -/

namespace MediaSystem

variable {config : MediaActorConfig} {s : MediaSystem}

/-- A transaction is that of a claim, and the one before it was that of the previous lease. -/
structure Recorded (s : MediaSystem) (held : MediaClaim) : Prop where
  newer : held.claim < s.player.ownership.claims.length
  previous : held.transaction.previous.owner ≠ .none →
    s.player.leaseOf held.previousClaim = some held.transaction.previous ∧
      held.previousClaim < held.claim

/-- What a caller holds. -/
def MediaCaller.held : MediaCaller → Option MediaClaim
  | .holding held | .opening held _ => some held
  | _ => none

/-- What every run keeps. -/
structure Sound (config : MediaActorConfig) (s : MediaSystem) : Prop where
  player : PlayerReachable config s.player
  callers : ∀ id held, MediaCaller.held (s.callers id) = some held → s.Recorded held
  aborts : ∀ aborted ∈ s.aborts, aborted.Faithful ∧ s.Recorded aborted.claim

lemma Recorded.extends {next : MediaSystem} {held : MediaClaim} (h : s.Recorded held)
    (hext : s.player.ownership.Extends next.player.ownership) : next.Recorded held where
  newer := Nat.lt_of_lt_of_le h.newer hext.claims.length_le
  previous howner :=
    ⟨hext.claim_eq (h.previous howner).1, (h.previous howner).2⟩

/-- Until the generations wrap around, the lease before a transaction is not the current one again. -/
lemma Recorded.previous_ne (hsound : s.player.ownership.Sound)
    (hstamp : s.player.ownership.stamps < 2 ^ 32) {held : MediaClaim} (h : s.Recorded held)
    (howner : held.transaction.previous.owner ≠ .none) :
    s.player.ownership.current ≠ held.transaction.previous := by
  intro hcur
  obtain ⟨hlease, holder⟩ := h.previous howner
  have hmem : held.transaction.previous ∈ s.player.ownership.claims :=
    List.mem_reverse.mp (List.mem_of_getElem? hlease)
  have hvalid : playerOwnershipValidate held.transaction.previous s.player.ownership = true := by
    unfold playerOwnershipValidate
    rw [if_neg (not_or.mpr ⟨howner, (hsound.valid _ hmem).2⟩), hcur]
    exact decide_eq_true rfl
  have hlast := hsound.last_of_validate hstamp hlease hvalid
  have hnewer := h.newer
  omega

lemma sound_initial (config : MediaActorConfig) : Sound config initial where
  player := .start
  callers _ _ h := nomatch h
  aborts _ h := absurd h List.not_mem_nil

lemma Sound.advance (h : s.Sound config) {next : MediaSystem}
    (hplayer : PlayerReachable config next.player)
    (hext : s.player.ownership.Extends next.player.ownership)
    (hcallers : ∀ id held, MediaCaller.held (next.callers id) = some held → MediaCaller.held (s.callers id) = some held ∨ next.Recorded held)
    (haborts : ∀ aborted ∈ next.aborts, aborted ∈ s.aborts ∨ aborted.Faithful ∧ next.Recorded aborted.claim) :
    next.Sound config where
  player := hplayer
  callers id held hheld := by
    rcases hcallers id held hheld with hkept | hrec
    · exact (h.callers id held hkept).extends hext
    · exact hrec
  aborts aborted hmem := by
    rcases haborts aborted hmem with hkept | hnew
    · exact ⟨(h.aborts aborted hkept).1, (h.aborts aborted hkept).2.extends hext⟩
    · exact hnew

lemma held_update {callers : ℕ → MediaCaller} {id : ℕ} {caller : MediaCaller} {P : MediaClaim → Prop}
    (hcaller : ∀ held, MediaCaller.held caller = some held →
      MediaCaller.held (callers id) = some held ∨ P held) (other : ℕ) (held : MediaClaim)
    (h : MediaCaller.held (Function.update callers id caller other) = some held) :
    MediaCaller.held (callers other) = some held ∨ P held := by
  by_cases hother : other = id
  · subst hother
    rw [Function.update_self] at h
    exact hcaller held h
  · rw [Function.update_of_ne hother] at h
    exact .inl h

variable (h : s.Sound config)

include h

lemma Sound.check (id : ℕ) (owner : PlayerMediaOwner) (token : UInt64)
    (accepts exclusive : Bool) : (s.check id owner token accepts exclusive).Sound config := by
  unfold MediaSystem.check
  dsimp only
  split
  · exact h
  split
  · exact h
  · exact h.advance h.player (.refl _) (held_update nofun) fun aborted hmem => .inl hmem

lemma Sound.claim (id : ℕ) : (s.claim id).Sound config := by
  unfold MediaSystem.claim
  split
  · rename_i owner token hcaller
    have hplayer := h.player.step (.claim owner token) trivial
    have hext := extends_claim owner token s.player.ownership
    have hcur := h.player.orderly.ownership.current
    simp only [playerStep] at hplayer
    unfold playerOwnershipClaim at hplayer hext ⊢
    split
    · rename_i hclaim
      exact h.advance h.player (.refl _) (held_update (by rintro _ ⟨⟩)) fun aborted hmem => .inl hmem
    rename_i lease previous ownership hclaim
    split_ifs at hclaim with howner
    · cases hclaim
    rw [if_neg howner] at hplayer hext
    obtain ⟨⟨rfl, rfl⟩, rfl⟩ := hclaim
    refine h.advance hplayer hext (held_update fun held hheld => .inr ?_)
      fun aborted hmem => .inl hmem
    cases hheld
    refine ⟨Nat.lt_succ_self _, fun howned => ?_⟩
    rcases hcur with hzero | hhead
    · exact absurd (congrArg PlayerOwnershipLease.owner hzero) howned
    · obtain ⟨hpositive, hlast⟩ := newest_claim hhead
      exact ⟨hext.claim_eq hlast, Nat.sub_lt hpositive Nat.one_pos⟩
  · exact h

lemma Sound.openMedia (id : ℕ) (uri metadata : Option (List UInt8))
    (autoplay initialized wait forever : Bool) :
    (s.openMedia config id uri metadata autoplay initialized wait forever).Sound config := by
  unfold MediaSystem.openMedia
  split
  · rename_i held hcaller
    dsimp only
    split
    · exact h
    let asked : PlayerSubmission := .request ⟨.openMedia, sourceOfOwner held.transaction.lease.owner,
      held.transaction.lease, uri, metadata, none, 0, autoplay⟩
    have hplayer := h.player.step (.submit asked (some held.claim) initialized wait forever) trivial
    refine h.advance hplayer
      (playerStep_extends config s.player (.submit asked (some held.claim) initialized wait forever))
      (held_update fun other hheld => .inl ?_) fun aborted hmem => .inl hmem
    rw [hcaller]
    exact hheld
  · exact h

lemma Sound.abortClaim {id : ℕ} {held : MediaClaim}
    (hheld : MediaCaller.held (s.callers id) = some held) : (s.abortClaim id held).Sound config := by
  have hplayer := h.player.step (.release held.transaction.lease) trivial
  have hext := (drops_release held.transaction.lease s.player.ownership).extends
  refine h.advance hplayer hext (held_update nofun) ?_
  intro aborted hmem
  rcases List.mem_cons.mp hmem with rfl | hmem
  · refine .inr ⟨⟨rfl, ?_⟩, (h.callers id held hheld).extends hext⟩
    show (playerOwnershipRelease held.transaction.lease s.player.ownership).2.current = _
    unfold playerOwnershipRelease
    split
    · rename_i hlease
      exact (if_pos hlease).symm
    · rename_i hlease
      exact (if_neg hlease).symm
  · exact .inl hmem

lemma Sound.abort (id : ℕ) : (s.abort id).Sound config := by
  unfold MediaSystem.abort
  split
  · exact h
  split
  · rename_i held hcaller
    exact h.abortClaim (by rw [hcaller]; rfl)
  · rename_i held request hcaller
    split
    · exact h.abortClaim (by rw [hcaller]; rfl)
    · exact h
  · exact h

lemma Sound.finish (id : ℕ) : (s.finish id).Sound config := by
  unfold MediaSystem.finish
  split
  · split
    · exact h.advance h.player (.refl _) (held_update nofun) fun aborted hmem => .inl hmem
    · exact h
  · exact h

/-- **One step.** -/
lemma Sound.step (step : TakeoverStep) : (takeoverStep config s step).Sound config := by
  cases step with
  | player step =>
    exact h.advance (h.player.step step trivial) (playerStep_extends config s.player step)
      (fun _ _ hheld => .inl hheld) fun aborted hmem => .inl hmem
  | check id owner token accepts exclusive => exact h.check id owner token accepts exclusive
  | claim id => exact h.claim id
  | openMedia id uri metadata autoplay initialized wait forever =>
    exact h.openMedia id uri metadata autoplay initialized wait forever
  | abort id => exact h.abort id
  | finish id => exact h.finish id
  | ended =>
    exact h.advance h.player (.refl _) (fun _ _ hheld => .inl hheld) fun aborted hmem => .inl hmem

end MediaSystem

lemma TakeoverReachable.sound {config : MediaActorConfig} {s : MediaSystem}
    (h : TakeoverReachable config s) : s.Sound config :=
  Runs.Reachable.invariant (MediaSystem.sound_initial config) (fun _ step ih _ => ih.step step) h

/-- **What an aborted takeover leaves.**  In every run, an abort of a takeover inside one resource mode
gives the player back, or leaves its media stopped, if it found them stopped, and found nothing playing
under its own lease or under none.  The previous lease itself never comes back. -/
theorem mediaAbort_restores {config : MediaActorConfig} {s : MediaSystem}
    (h : TakeoverReachable config s) {aborted : MediaAbort} (hmem : aborted ∈ s.aborts)
    (hmode : aborted.SameMode) :
    (aborted.Restored ↔ aborted.Quiet) ∧
      (s.player.ownership.stamps < 2 ^ 32 →
        s.player.ownership.current ≠ aborted.claim.transaction.previous) := by
  obtain ⟨hfaithful, hrecorded⟩ := h.sound.aborts aborted hmem
  exact ⟨hfaithful.restored_iff,
    fun hstamps => hrecorded.previous_ne h.sound.player.orderly.ownership hstamps hmode.1⟩

/-- A command is put to the actor as request `key`, taken, and executed. -/
def executeCommand (key : ℕ) : List TakeoverStep :=
  [.player (.actor (.submit key)), .player (.actor .workerTop), .player .validated,
    .player (.executed true), .player (.actor .completed)]

/-- The actor comes up, and the renderer opens its media. -/
def rendererOpens : List TakeoverStep :=
  [.player (.actor .start), .player (.actor (.startThread true)), .player (.actor .startDone),
      .player (.actor (.initialized true)), .check 0 .dlna 7 true true, .claim 0,
      .openMedia 0 (some (asciiBytes "http://a/1")) none false true true true] ++
    executeCommand 0 ++ [.player (.actor (.wake 0 false)), .finish 0]

/-- Another request of the renderer takes over, its OPEN is not executed in time, and it aborts. -/
def secondOpenTimesOut (key : ℕ) : List TakeoverStep :=
  [.check 1 .dlna 7 true true, .claim 1,
    .openMedia 1 (some (asciiBytes "http://a/2")) none false true true false,
    .player (.actor (.submit key)), .player (.actor (.wake key true)), .abort 1]

/-- The renderer stops its media before the other request comes. -/
def stoppedTakeover : MediaSystem :=
  Runs.run (takeoverStep smallActorConfig) .initial
    (rendererOpens ++
      [.player (.submit (.request ⟨.stop, .dlna, ⟨.dlna, 7, 1⟩, none, none, none, 0, false⟩) (some 0)
        true false false)] ++
      executeCommand 1 ++ secondOpenTimesOut 2)

/-- What the second request does when it comes behind a stop. -/
def stoppedAbort : MediaAbort where
  claim := ⟨⟨true, ⟨.dlna, 7, 2⟩, ⟨.dlna, 7, 1⟩⟩, 1, 0⟩
  before := ⟨⟨.dlna, 7, 2⟩, some ⟨some 0, true⟩⟩
  after := ⟨.zero, some ⟨some 0, true⟩⟩

theorem mediaAbort_restores_stopped :
    stoppedAbort ∈ stoppedTakeover.aborts ∧ stoppedAbort.SameMode ∧ stoppedAbort.Restored := by
  have hreachable : TakeoverReachable smallActorConfig stoppedTakeover := Runs.Reachable.start.run _
  have hmem : stoppedAbort ∈ stoppedTakeover.aborts := by decide +kernel
  have hmode : stoppedAbort.SameMode := ⟨by decide, rfl⟩
  have hquiet : stoppedAbort.Quiet := by
    refine ⟨.inr fun hplays => ?_, fun ⟨opened, hopened, hplaying⟩ => ?_⟩
    · exact absurd hplays (by unfold MediaAbort.PreviousPlays; decide)
    · cases hopened
      cases hplaying
  obtain ⟨hrestores, -⟩ := mediaAbort_restores hreachable hmem hmode
  exact ⟨hmem, hmode, hrestores.mpr hquiet⟩

/-- The second request comes while the media of the first play. -/
def playingTakeover : MediaSystem :=
  Runs.run (takeoverStep smallActorConfig) .initial (rendererOpens ++ secondOpenTimesOut 1)

/-- What it does then. -/
def playingAbort : MediaAbort where
  claim := ⟨⟨true, ⟨.dlna, 7, 2⟩, ⟨.dlna, 7, 1⟩⟩, 1, 0⟩
  before := ⟨⟨.dlna, 7, 2⟩, some ⟨some 0, false⟩⟩
  after := ⟨.zero, some ⟨some 0, false⟩⟩

/-- The media of the first request play on, and nobody owns the player. -/
theorem mediaAbort_orphans :
    ¬ ∀ (config : MediaActorConfig) (s : MediaSystem), TakeoverReachable config s →
      ∀ aborted ∈ s.aborts, aborted.SameMode → aborted.Restored := by
  intro hclaim
  have hreachable : TakeoverReachable smallActorConfig playingTakeover := Runs.Reachable.start.run _
  have hmem : playingAbort ∈ playingTakeover.aborts := by decide +kernel
  have hrestored := hclaim _ _ hreachable playingAbort hmem ⟨by decide, rfl⟩
  exact absurd rfl (hrestored.2 ⟨⟨some 0, false⟩, rfl, rfl⟩)

end NXCast
