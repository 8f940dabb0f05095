import NXCast.Media.RemoteVideoSections

/-!
# The generation guard of remote video

An `/action` claims the player and starts a playback only for the session and the generation it
was read for: a section that starts one compares both with the module first, and whatever changes
the module in between changes its generation.  The invariant is kept by each section of each
program, hence by any interleaving of any number of calls.
-/

namespace NXCast

open Interleaving RemoteVideoPlace

/-! ## The invariant -/

/-- Where the module has to be for such a callback. -/
def RemoteVideoOp.startsIn : RemoteVideoOp → AirPlayRemoteVideoSessionState
  | .claimOwner _ => .pendingHls
  | _ => .active

/-- The callback was made for the session and the generation the module was in. -/
def RemoteVideoEvent.Current (event : RemoteVideoEvent) : Prop :=
  event.place.state = event.op.startsIn ∧ event.place.ownerSessionId = event.session ∧
    event.generation = some event.place.generation

namespace RemoteVideoWorld

variable {ν : Type} {config : AirPlayRemoteVideoConfig ν} {world world' : RemoteVideoWorld ν}

/-- The invariant of the module and its history. -/
structure Guarded (world : RemoteVideoWorld ν) : Prop where
  unclaimed : world.remote.state ≠ .active → world.remote.ownerClaimed = none
  idle : world.remote.state = .idle → world.remote.ownerSessionId = 0 ∧
    world.remote.pendingSeek = false ∧ world.remote.pendingFractionSeek = false ∧
    world.remote.pendingScrub = false
  numbered : world.remote.generation = UInt32.ofNat world.changes
  started : ∀ event ∈ world.trace, event.handler = .action → event.op.starts = true →
    event.Current

/-- What a section may do: it keeps the invariant, and the generations go on. -/
def Advances (world world' : RemoteVideoWorld ν) : Prop :=
  (world.Guarded → world'.Guarded) ∧ world.changes ≤ world'.changes

lemma Advances.refl (world : RemoteVideoWorld ν) : world.Advances world := ⟨id, le_rfl⟩

lemma Advances.trans {world'' : RemoteVideoWorld ν} (h : world.Advances world')
    (h' : world'.Advances world'') : world.Advances world'' :=
  ⟨fun hguarded => h'.1 (h.1 hguarded), h.2.trans h'.2⟩

lemma Guarded.initial (config : AirPlayRemoteVideoConfig ν) (player : AirPlayRemoteVideoSnapshot)
    (controlPort : UInt16) : (RemoteVideoWorld.initial config player controlPort).Guarded where
  unclaimed _ := rfl
  idle _ := ⟨rfl, rfl, rfl, rfl⟩
  numbered := rfl
  started _ hevent := absurd hevent List.not_mem_nil

/-- A section that leaves the place and the owner keeps the invariant unless it records a seek
for nobody. -/
lemma Guarded.of_place (h : world.Guarded) (hplace : world'.remote.place = world.remote.place)
    (howner : world'.remote.ownerClaimed = world.remote.ownerClaimed)
    (hchg : world'.changes = world.changes) (htrace : world'.trace = world.trace)
    (hidle : world.remote.state = .idle → world'.remote.pendingSeek = world.remote.pendingSeek ∧ world'.remote.pendingFractionSeek = world.remote.pendingFractionSeek ∧ world'.remote.pendingScrub = world.remote.pendingScrub) :
    world'.Guarded := by
  simp only [AirPlayRemoteVideo.place, RemoteVideoPlace.mk.injEq] at hplace
  obtain ⟨hstate, hsess, hgen⟩ := hplace
  constructor
  · intro hinactive
    rw [howner]
    exact h.unclaimed (by rwa [hstate] at hinactive)
  · intro hstop
    rw [hstate] at hstop
    obtain ⟨hzero, hseek, hfrac, hscrub⟩ := h.idle hstop
    obtain ⟨hseek', hfrac', hscrub'⟩ := hidle hstop
    exact ⟨hsess.trans hzero, hseek'.trans hseek, hfrac'.trans hfrac, hscrub'.trans hscrub⟩
  · rw [hgen, hchg]
    exact h.numbered
  · rw [htrace]
    exact h.started

lemma Guarded.record (h : world.Guarded) {handler : RemoteVideoHandler} {session : UInt64}
    {generation : Option UInt32} {op : RemoteVideoOp}
    (hcur : handler = .action → op.starts → RemoteVideoEvent.Current ⟨op, handler, session, generation, world.remote.place⟩) :
    (world.record handler session generation op).Guarded where
  unclaimed := h.unclaimed
  idle := h.idle
  numbered := h.numbered
  started event hevent haction hstarts := by
    rcases List.mem_append.mp hevent with hold | hnew
    · exact h.started event hold haction hstarts
    rw [List.mem_singleton] at hnew
    subst hnew
    exact hcur haction hstarts

lemma Guarded.clearOwner (h : world.Guarded) : (world.clearOwner config).Guarded where
  unclaimed _ := rfl
  idle _ := ⟨rfl, rfl, rfl, rfl⟩
  numbered := h.numbered
  started := h.started

lemma Guarded.nextGeneration (h : world.Guarded) : world.nextGeneration.Guarded where
  unclaimed := h.unclaimed
  idle := h.idle
  numbered := by
    show world.remote.generation + 1 = UInt32.ofNat (world.changes + 1)
    rw [h.numbered, UInt32.ofNat_add]
    rfl
  started := h.started

end RemoteVideoWorld

/-! ## Sections -/

namespace RemoteVideo

open RemoteVideoWorld

variable {ν : Type} (config : AirPlayRemoteVideoConfig ν) (handler : RemoteVideoHandler)
  (session : UInt64)
  (world : RemoteVideoWorld ν)

lemma advances_clearOwner : world.Advances (world.clearOwner config) :=
  ⟨Guarded.clearOwner, le_rfl⟩

lemma advances_clear : world.Advances (world.clearOwner config).nextGeneration :=
  ⟨(·.clearOwner.nextGeneration), Nat.le_succ _⟩

lemma advances_of_place {world world' : RemoteVideoWorld ν}
    (hplace : world'.remote.place = world.remote.place)
    (howner : world'.remote.ownerClaimed = world.remote.ownerClaimed)
    (hchg : world'.changes = world.changes) (htrace : world'.trace = world.trace)
    (hidle : world.remote.state = .idle → world'.remote.pendingSeek = world.remote.pendingSeek ∧ world'.remote.pendingFractionSeek = world.remote.pendingFractionSeek ∧ world'.remote.pendingScrub = world.remote.pendingScrub) :
    world.Advances world' :=
  ⟨fun h => h.of_place hplace howner hchg htrace hidle, hchg.ge⟩

lemma advances_record {op : RemoteVideoOp} (h : handler ≠ .action ∨ op.starts = false)
    (generation : Option UInt32) (world : RemoteVideoWorld ν) :
    world.Advances (world.record handler session generation op) := by
  refine ⟨fun hguarded => hguarded.record fun haction hstarts => ?_, le_rfl⟩
  rcases h with hhand | hop
  · exact absurd haction hhand
  · rw [hop] at hstarts
    cases hstarts

/-- `load` and `play` are for the place the module is in. -/
lemma advances_record_started {world : RemoteVideoWorld ν} {going : UInt32} {op : RemoteVideoOp}
    (hplace : world.remote.place = ⟨.active, session, going⟩) (hop : op.startsIn = .active) :
    world.Advances (world.record handler session (some going) op) := by
  refine ⟨fun h => h.record fun _ _ => ?_, le_rfl⟩
  simp only [RemoteVideoEvent.Current, hplace, hop, and_self]

lemma advances_startPlayback {world world' : RemoteVideoWorld ν} {going : UInt32}
    (h : world.Advances world') (hplace : world'.remote.place = ⟨.active, session, going⟩)
    (url metadata : List UInt8) (loaded played : Bool) (claim : Option ℕ) :
    world.Advances
      (startPlayback config handler session url metadata loaded played going claim world').2 := by
  have hload : world'.Advances
      (world'.record handler session (some going) (.load url metadata)) :=
    advances_record_started handler session hplace rfl
  have hplayed : (world'.record handler session (some going) (.load url metadata)).Advances
      (if loaded then (world'.record handler session (some going) (.load url metadata)).record
          handler session (some going) .play
        else world'.record handler session (some going) (.load url metadata)) := by
    split
    · exact advances_record_started handler session hplace rfl
    · exact Advances.refl _
  simp only [startPlayback]
  split
  · exact (h.trans hload).trans hplayed
  · exact ((h.trans hload).trans hplayed).trans (advances_clear config _)

lemma advances_failGenerationSection (failed : UInt32) (world : RemoteVideoWorld ν) :
    world.Advances (failGenerationSection config session failed world).2 := by
  unfold failGenerationSection
  split
  · exact advances_clear config world
  · exact Advances.refl world

lemma advances_terminateSection : world.Advances (terminateSection config session world).2 := by
  unfold terminateSection
  split
  · exact advances_clear config world
  · exact Advances.refl world

lemma advances_closedSection : world.Advances (closedSection config session world).2 := by
  unfold closedSection
  split
  · exact advances_clear config world
  split
  · exact advances_of_place rfl rfl rfl rfl fun _ => ⟨rfl, rfl, rfl⟩
  · exact Advances.refl world

/-- The first section of a `/play` leaves the module active or pending, and active where an
owner stays. -/
lemma advances_playSection (play : AirPlayRemotePlayRequest ν) (reverseHls : Bool)
    (world : RemoteVideoWorld ν) :
    world.Advances (playSection config session play reverseHls world).2 := by
  refine ⟨fun h => ?_, Nat.le_succ _⟩
  refine Guarded.nextGeneration ⟨fun hinactive => ?_, fun hidle => ?_, h.numbered, h.started⟩
  · cases reverseHls with
    | true => rfl
    | false => exact absurd rfl hinactive
  · cases reverseHls with
    | true | false => cases hidle

lemma advances_completePlaySection (play : AirPlayRemotePlayRequest ν) (locals : PlayLocals)
    (claim : Option ℕ) (loaded played : Bool) (world : RemoteVideoWorld ν) :
    world.Advances
      (completePlaySection config session play locals claim loaded played world).2 := by
  have hcnt : ∀ continuing : ℕ,
      world.Advances { world with continuing := continuing } := fun _ =>
    advances_of_place rfl rfl rfl rfl fun _ => ⟨rfl, rfl, rfl⟩
  unfold completePlaySection
  dsimp only
  generalize (if locals.reuseOwner then world.continuing - 1 else world.continuing) = continuing
  split
  · exact hcnt _
  rename_i hplace
  have hplace : world.remote.place = ⟨.active, session, locals.generation⟩ := not_not.mp hplace
  have hact : world.remote.state = .active := congrArg state hplace
  split
  · apply advances_startPlayback config .play session
    · exact advances_of_place rfl rfl rfl rfl fun _ => ⟨rfl, rfl, rfl⟩
    · exact hplace
  split
  · apply advances_startPlayback config .play session
    · refine ⟨fun h => ⟨absurd hact, fun hidle => ?_, h.numbered, h.started⟩, le_rfl⟩
      rw [hact] at hidle
      cases hidle
    · exact hplace
  · apply advances_startPlayback config .play session
    · exact hcnt continuing
    · exact hplace

lemma advances_refusedSection (locals : PlayLocals) (world : RemoteVideoWorld ν) :
    world.Advances (refusedSection config session locals world) := by
  unfold refusedSection
  split
  · exact advances_clearOwner config world
  · exact Advances.refl world

/-- A READY claims the player and starts its playback in the place it was read for. -/
lemma advances_readySection (action : AirPlayRemoteHlsAction) (granted loaded played : Bool)
    (world : RemoteVideoWorld ν) :
    world.Advances (readySection config session action granted loaded played world).2 := by
  unfold readySection
  split
  · exact Advances.refl world
  rename_i hpend
  have hplace : world.remote.place = ⟨.pendingHls, session, action.generation⟩ := by
    simpa only [hpend, hlsPending, decide_eq_false_iff_not, not_not] using hpend
  have hclaim : world.Advances
      (world.record .action session (some action.generation) (.claimOwner granted)) := by
    refine ⟨fun h => h.record fun _ _ => ?_, le_rfl⟩
    simp only [RemoteVideoEvent.Current, hplace, RemoteVideoOp.startsIn, and_self]
  split
  · exact hclaim
  have hsess : world.remote.ownerSessionId = session :=
    congrArg ownerSessionId hplace
  have hgen : world.remote.generation = action.generation :=
    congrArg generation hplace
  apply advances_startPlayback config .action session
  · refine hclaim.trans ⟨fun h => ?_, le_rfl⟩
    refine ⟨absurd rfl, fun hidle => ?_, h.numbered, h.started⟩
    cases hidle
  · simp only [AirPlayRemoteVideo.place, RemoteVideoWorld.record, hsess, hgen]

lemma advances_pendingSeekSection (snapshot : AirPlayRemoteVideoSnapshot)
    (world : RemoteVideoWorld ν) :
    world.Advances (pendingSeekSection config session snapshot world).2 := by
  unfold pendingSeekSection
  split_ifs with howned
  · refine advances_of_place rfl rfl rfl rfl fun hidle => ?_
    simp only [sessionOwned, hidle, reduceCtorEq, false_and, decide_false, Bool.false_eq_true] at howned
  · exact Advances.refl world

lemma advances_scrubSection (positionMs : ℤ) (world : RemoteVideoWorld ν) :
    world.Advances (scrubSection session positionMs world).2 := by
  unfold scrubSection
  split_ifs with hpend
  · refine advances_of_place rfl rfl rfl rfl fun hidle => ?_
    simp only [sessionHlsPending, hidle, reduceCtorEq, false_and, decide_false, Bool.false_eq_true] at hpend
  · exact Advances.refl world

lemma advances_scrubbedSection : world.Advances (scrubbedSection session world) := by
  unfold scrubbedSection
  split_ifs with howned
  · refine advances_of_place rfl rfl rfl rfl fun hidle => ?_
    simp only [sessionOwned, hidle, reduceCtorEq, false_and, decide_false, Bool.false_eq_true] at howned
  · exact Advances.refl world

lemma advances_rateSection (rate : ν) (world : RemoteVideoWorld ν) :
    world.Advances (rateSection session rate world).2 := by
  unfold rateSection
  split
  · exact advances_of_place rfl rfl rfl rfl fun _ => ⟨rfl, rfl, rfl⟩
  · exact Advances.refl world

lemma advances_reattachSection : world.Advances (reattachSection session world).2 := by
  unfold reattachSection
  split
  · exact advances_of_place rfl rfl rfl rfl fun _ => ⟨rfl, rfl, rfl⟩
  · exact Advances.refl world

lemma sectionsKeep_advances : SectionsKeep config Advances where
  refl := Advances.refl
  record world handler session generation _ hop _ :=
    advances_record handler session hop generation world
  hls _ _ := advances_of_place rfl rfl rfl rfl fun _ => ⟨rfl, rfl, rfl⟩
  failGeneration := advances_failGenerationSection config
  terminate := advances_terminateSection config
  closed := advances_closedSection config
  ready := advances_readySection config
  rate := advances_rateSection
  reattach := advances_reattachSection
  environment _ _ _ := advances_of_place rfl rfl rfl rfl fun _ => ⟨rfl, rfl, rfl⟩
  play := advances_playSection config
  complete := advances_completePlaySection config
  refused := advances_refusedSection config
  pendingSeek := advances_pendingSeekSection config
  scrub := advances_scrubSection
  scrubbed := advances_scrubbedSection
  seek world handler session generation _ :=
    advances_record handler session (.inr rfl) generation world

end RemoteVideo

/-! ## Runs -/

/-- A module with every callback, whose numbers are natural numbers. -/
def AirPlayRemoteVideoConfig.plain : AirPlayRemoteVideoConfig ℕ where
  claimOwner := true
  releaseOwner := true
  controlAttached := true
  controlDetached := true
  sendReverseRequest := true
  controlPort := true
  double := ⟨0, 1, (0 < ·), (· == 0), (· == 1), fun value => value * 1000,
    fun value duration => value * duration⟩
  parsePlayRequest request :=
    if request.body = asciiBytes "Content-Location: http://a/" then
      some ⟨asciiBytes "http://a/", [], 0, false, false⟩
    else none
  queryNumber _ _ := none
  scrubBody _ := none
  playbackInfoBody _ _ := none

/-- A `POST /play` of a URL. -/
def playRequest : AirPlayRtspRequest where
  method := cstring "POST"
  uri := cstring "/play"
  protocol := cstring "HTTP/1.1"
  headers := []
  body := asciiBytes "Content-Location: http://a/"
  bodyLength := 27
  hasCseq := false
  cseq := 0

/-- The response it starts from. -/
def playResponse : AirPlayRtspResponse := ⟨cstring "HTTP/1.1", 200, [], [], false, false⟩

/-- A player without media. -/
def AirPlayRemoteVideoSnapshot.empty : AirPlayRemoteVideoSnapshot :=
  ⟨false, false, 0, 0, .idle⟩

/-- A call of a thread, with the answers of its first sections. -/
def remoteVideoMoves (id : ℕ) (call : RemoteVideoCall) (answers : List Bool) :
    List (Label RemoteVideoCall) :=
  .call id call :: answers.map (.run id)

/-- A module in which nothing has happened. -/
def RemoteVideoWorld.plain : RemoteVideoWorld ℕ := .initial .plain .empty 7000

/-- A `/play` that claims the player, loads and plays. -/
def playMoves (id : ℕ) : List (Label RemoteVideoCall) :=
  remoteVideoMoves id (.route 7 playRequest playResponse) (List.replicate 8 true) ++ [.ret id]

end NXCast
