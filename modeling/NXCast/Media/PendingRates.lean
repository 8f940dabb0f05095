import NXCast.Media.PendingSeeks
import NXCast.Media.RequestLoop

/-!
# The rate of a pending play

`handle_rate` records the rate of a play that is still pending, and `handle_action` does not read it:
a play that becomes ready is loaded and played.  Requests are served one after the other; beside the
world a run keeps the last rate received for the play that is pending.
-/

namespace NXCast

open Interleaving List

/-! ## The start of a play -/

/-- The load of an HLS play that has become ready. -/
def RemoteVideoEvent.loadsReady (event : RemoteVideoEvent) : Bool :=
  decide (event.handler = .action) && match event.op with
    | .load _ _ => true
    | _ => false

/-- The callback that follows the load of an HLS play. -/
def startedWith : List RemoteVideoEvent → Option RemoteVideoOp
  | [] => none
  | event :: events =>
    if event.loadsReady then events.head?.map RemoteVideoEvent.op else startedWith events

variable {events later : List RemoteVideoEvent}

lemma startedWith_append_of_none
    (h : ∀ event ∈ events, event.loadsReady = false) :
    startedWith (events ++ later) = startedWith later := by
  induction events with
  | nil => rfl
  | cons event events ih =>
    rw [forall_mem_cons] at h
    rw [cons_append, startedWith, h.1]
    exact ih h.2

lemma startedWith_append_of_some {op : RemoteVideoOp}
    (h : startedWith events = some op) : startedWith (events ++ later) = some op := by
  induction events with
  | nil => cases h
  | cons event events ih =>
    rw [startedWith] at h
    rw [cons_append, startedWith]
    split_ifs at h with hload
    · obtain ⟨next, hnext, hop⟩ := Option.map_eq_some_iff.mp h
      rw [if_pos hload, head?_append, hnext, Option.some_or, Option.map_some, hop]
    · rw [if_neg hload]
      exact ih h

namespace RemoteVideoWorld

variable {ν : Type} {world world' : RemoteVideoWorld ν}

/-- While the generation stays, the module becomes active by the load of an HLS play, and then `play`
is next. -/
def ReadyPlays (world world' : RemoteVideoWorld ν) : Prop :=
  world.changes ≤ world'.changes ∧ ∃ events, world'.trace = world.trace ++ events ∧
    (world'.changes = world.changes → world.remote.state ≠ .active →
      (world'.remote.state ≠ .active ∧ ∀ event ∈ events, event.loadsReady = false) ∨
        startedWith events = some .play)

lemma ReadyPlays.of_events (hchg : world.changes ≤ world'.changes)
    (htrace : world'.trace = world.trace ++ events)
    (hstate : world.remote.state ≠ .active → world'.remote.state ≠ .active)
    (hloads : ∀ event ∈ events, event.loadsReady = false) : world.ReadyPlays world' :=
  ⟨hchg, events, htrace, fun _ hidle => .inl ⟨hstate hidle, hloads⟩⟩

lemma ReadyPlays.of_quiet (hchg : world'.changes = world.changes)
    (htrace : world'.trace = world.trace)
    (hstate : world.remote.state ≠ .active → world'.remote.state ≠ .active) :
    world.ReadyPlays world' := by
  have hnone : world'.trace = world.trace ++ [] := by rw [htrace, append_nil]
  exact .of_events hchg.ge hnone hstate nofun

lemma ReadyPlays.of_changes (hchg : world.changes < world'.changes)
    (htrace : world.trace <+: world'.trace) : world.ReadyPlays world' := by
  obtain ⟨events, htrace⟩ := htrace
  exact ⟨hchg.le, events, htrace.symm, fun hsame => absurd hsame hchg.ne'⟩

lemma ReadyPlays.of_active (hact : world.remote.state = .active)
    (hchg : world.changes ≤ world'.changes) (htrace : world.trace <+: world'.trace) :
    world.ReadyPlays world' := by
  obtain ⟨events, htrace⟩ := htrace
  exact ⟨hchg, events, htrace.symm, fun _ => absurd hact⟩

lemma ReadyPlays.refl (world : RemoteVideoWorld ν) : world.ReadyPlays world :=
  .of_quiet rfl rfl id

lemma ReadyPlays.trans {world'' : RemoteVideoWorld ν} (h : world.ReadyPlays world')
    (h' : world'.ReadyPlays world'') : world.ReadyPlays world'' := by
  obtain ⟨hchg, events, htrace, hready⟩ := h
  obtain ⟨hchg', later, htrace', hready'⟩ := h'
  refine ⟨hchg.trans hchg', events ++ later, by rw [htrace', htrace, append_assoc],
    fun hsame hidle => ?_⟩
  obtain ⟨hidle', hnone⟩ | hplay := hready (by omega) hidle
  · rw [startedWith_append_of_none hnone]
    refine (hready' (by omega) hidle').imp_left fun ⟨hidle'', hlater⟩ => ⟨hidle'', ?_⟩
    intro event hevent
    exact (mem_append.mp hevent).elim (hnone event) (hlater event)
  · exact .inr (startedWith_append_of_some hplay)

end RemoteVideoWorld

namespace RemoteVideo

open RemoteVideoWorld

variable {ν : Type} (config : AirPlayRemoteVideoConfig ν)

lemma readyPlays_record {world : RemoteVideoWorld ν} (handler : RemoteVideoHandler)
    (session : UInt64) (generation : Option UInt32) {op : RemoteVideoOp}
    (hop : handler ≠ .action ∨ op.starts = false) :
    world.ReadyPlays (world.record handler session generation op) := by
  refine .of_events le_rfl rfl id fun event hevent => ?_
  rw [mem_singleton] at hevent
  rw [hevent, RemoteVideoEvent.loadsReady]
  obtain hhand | hstarts := hop
  · rw [decide_eq_false hhand, Bool.false_and]
  cases op with
  | load url metadata => cases hstarts
  | _ => exact Bool.and_false _

lemma readyPlays_clear {world world' : RemoteVideoWorld ν} (hchg : world'.changes = world.changes)
    (htrace : world.trace <+: world'.trace) :
    world.ReadyPlays (world'.clearOwner config).nextGeneration :=
  .of_changes (hchg ▸ Nat.lt_succ_self _) htrace

/-- How `load` and `play` end. -/
lemma startPlayback_trace (handler : RemoteVideoHandler) (session : UInt64)
    (url metadata : List UInt8) (loaded played : Bool) (going : UInt32) (claim : Option ℕ)
    (world : RemoteVideoWorld ν) :
    let started := startPlayback config handler session url metadata loaded played going claim world
    world.trace <+: started.2.trace ∧ (started.2.changes = world.changes →
      started.2.trace = world.trace ++
        [⟨.load url metadata, handler, session, some going, world.remote.place⟩,
          ⟨.play, handler, session, some going, world.remote.place⟩]) ∧
      world.changes ≤ started.2.changes := by
  cases loaded with
  | false => exact ⟨⟨_, rfl⟩, fun hsame => absurd hsame (Nat.succ_ne_self _), Nat.le_succ _⟩
  | true =>
    have htrace : ((world.record handler session (some going) (.load url metadata)).record handler
        session (some going) .play).trace = world.trace ++
          [⟨.load url metadata, handler, session, some going, world.remote.place⟩,
            ⟨.play, handler, session, some going, world.remote.place⟩] :=
      append_assoc _ _ _
    cases played with
    | false => exact ⟨⟨_, htrace.symm⟩, fun hsame => absurd hsame (Nat.succ_ne_self _), Nat.le_succ _⟩
    | true => exact ⟨⟨_, htrace.symm⟩, fun _ => htrace, le_rfl⟩

/-- **A READY** claims the player, loads and plays. -/
lemma readyPlays_readySection (session : UInt64) (action : AirPlayRemoteHlsAction)
    (granted loaded played : Bool) (world : RemoteVideoWorld ν) :
    world.ReadyPlays (readySection config session action granted loaded played world).2 := by
  unfold readySection
  split
  · exact .refl world
  have hclaim : world.ReadyPlays
      (world.record .action session (some action.generation) (.claimOwner granted)) := by
    refine .of_events le_rfl rfl id fun event hevent => ?_
    rw [mem_singleton] at hevent
    rw [hevent]
    rfl
  split
  · exact hclaim
  obtain ⟨⟨events, htrace⟩, hstart, hchg⟩ := startPlayback_trace config .action session
    action.playbackUrl world.remote.pendingMetadata loaded played action.generation
    (some (grantedClaims world.trace).length)
    { world.record .action session (some action.generation) (.claimOwner granted) with
      remote := { world.remote with
        state := .active
        ownerClaimed := some (grantedClaims world.trace).length
        controlAttached := true } }
  refine ⟨hchg, _, htrace.symm.trans (append_assoc _ _ _), fun hsame _ => .inr ?_⟩
  have hevs := htrace.trans (hstart hsame)
  rw [append_cancel_left hevs]
  rfl

lemma readyPlays_completePlaySection (session : UInt64) (play : AirPlayRemotePlayRequest ν)
    (locals : PlayLocals) (claim : Option ℕ) (loaded played : Bool) (world : RemoteVideoWorld ν) :
    world.ReadyPlays
      (completePlaySection config session play locals claim loaded played world).2 := by
  unfold completePlaySection
  dsimp only
  generalize (if locals.reuseOwner then world.continuing - 1 else world.continuing) = continuing
  split
  · exact .of_quiet rfl rfl id
  rename_i hplace
  have hact : world.remote.state = .active :=
    congrArg RemoteVideoPlace.state (not_not.mp hplace)
  split
  · obtain ⟨htrace, -, hchg⟩ := startPlayback_trace config .play session play.url play.metadata
      loaded played locals.generation world.remote.ownerClaimed
      { world with continuing, remote := { world.remote with controlAttached := true } }
    exact .of_active hact hchg htrace
  split
  · obtain ⟨htrace, -, hchg⟩ := startPlayback_trace config .play session play.url
      play.metadata loaded played locals.generation claim
      { world with continuing, remote := { world.remote with
          ownerClaimed := claim
          controlAttached := true } }
    exact .of_active hact hchg htrace
  · obtain ⟨htrace, -, hchg⟩ := startPlayback_trace config .play session play.url
      play.metadata loaded played locals.generation none { world with continuing }
    exact .of_active hact hchg htrace

lemma sectionsKeep_readyPlays : SectionsKeep config ReadyPlays where
  refl := ReadyPlays.refl
  record _ handler session generation _ hop _ := readyPlays_record handler session generation hop
  hls _ _ := .of_quiet rfl rfl id
  failGeneration session failed world := by
    unfold failGenerationSection
    split
    · exact readyPlays_clear config rfl prefix_rfl
    · exact .refl world
  terminate session world := by
    unfold terminateSection
    split
    · exact readyPlays_clear config rfl prefix_rfl
    · exact .refl world
  closed session world := by
    unfold closedSection
    split
    · exact readyPlays_clear config rfl prefix_rfl
    split
    · exact .of_quiet rfl rfl id
    · exact .refl world
  ready := readyPlays_readySection config
  rate session rate world := by
    unfold rateSection
    split
    · exact .of_quiet rfl rfl id
    · exact .refl world
  reattach session world := by
    unfold reattachSection
    split
    · exact .of_quiet rfl rfl id
    · exact .refl world
  environment _ _ _ := .of_quiet rfl rfl id
  play session play reverseHls world := .of_changes (Nat.lt_succ_self _) prefix_rfl
  complete := readyPlays_completePlaySection config
  refused session locals world := by
    unfold refusedSection
    split
    · exact .of_quiet rfl rfl fun _ => nofun
    · exact .refl world
  pendingSeek session snapshot world := by
    unfold pendingSeekSection
    split
    · exact .of_quiet rfl rfl id
    · exact .refl world
  scrub session positionMs world := by
    unfold scrubSection
    split
    · exact .of_quiet rfl rfl id
    · exact .refl world
  scrubbed session world := by
    unfold scrubbedSection
    split
    · exact .of_quiet rfl rfl id
    · exact .refl world
  seek _ handler session generation _ := readyPlays_record handler session generation (.inr rfl)

end RemoteVideo

/-! ## Runs -/

/-- The world, and the last rate received for the play that is pending. -/
structure RateRun (ν : Type) where
  world : RemoteVideoWorld ν
  lastRate : Option ν

namespace RateRun

variable {ν : Type} (config : AirPlayRemoteVideoConfig ν)

/-- The rate that a `/rate` request of the session asks for: nought or one. -/
def requestedRate (world : RemoteVideoWorld ν) : RemoteVideoCall → Option ν
  | .route session request _ =>
    if world.remote.ownerSessionId = session ∧ RemoteVideo.uriIs request.uri "/rate" = true ∧
        request.method = cstring "POST" then
      ((config.queryNumber request.uri "value").or (config.queryNumber request.uri "rate")).filter
        fun rate => config.double.isZero rate || config.double.isOne rate
    else none
  | _ => none

variable (run : RateRun ν)

/-- A request is served, without interference. -/
def next (served : ServedCall) : RateRun ν :=
  let world := ((served.call.program config).alone served.answers run.world).2
  ⟨world, if world.remote.state = .pendingHls ∧ world.changes = run.world.changes then
      (requestedRate config run.world served.call).or run.lastRate
    else none⟩

/-- Requests are served one after the other. -/
def after (player : AirPlayRemoteVideoSnapshot) (controlPort : UInt16) (calls : List ServedCall) :
    RateRun ν :=
  calls.foldl (next config) ⟨.initial config player controlPort, none⟩

/-- The request makes the play that is pending ready. -/
def BecomesReady (served : ServedCall) : Prop :=
  run.world.remote.state = .pendingHls ∧ (run.next config served).world.remote.state = .active ∧
    (run.next config served).world.changes = run.world.changes

/-- The last rate was nought. -/
def Paused : Prop := ∃ rate, run.lastRate = some rate ∧ config.double.isZero rate = true

/-- The callbacks of a request. -/
def callbacks (served : ServedCall) : List RemoteVideoEvent :=
  (run.next config served).world.trace.drop run.world.trace.length

/-- A play that becomes ready is played after it is loaded, unless the last rate was nought. -/
def HonoursRate (served : ServedCall) : Prop :=
  BecomesReady config run served →
    (startedWith (run.callbacks config served) = some .play ↔ ¬run.Paused config)

variable {config}

/-- **One request**: a play that becomes ready is played. -/
lemma startedWith_callbacks {run : RateRun ν} {served : ServedCall}
    (h : BecomesReady config run served) :
    startedWith (run.callbacks config served) = some .play := by
  obtain ⟨hpend, hact, hsame⟩ := h
  have hkeeps := (RemoteVideo.sectionsKeep_readyPlays config).keeps_program served.call
  obtain ⟨-, events, htrace, hready⟩ := (hkeeps.ends RemoteVideoWorld.ReadyPlays.refl
    (fun _ _ _ => RemoteVideoWorld.ReadyPlays.trans) run.world).alone served.answers
  have hevs : run.callbacks config served = events := by
    unfold callbacks
    rw [show (run.next config served).world.trace = run.world.trace ++ events from htrace,
      drop_left]
  rw [hevs]
  refine (hready hsame ?_).resolve_left fun hidle => hidle.1 hact
  rw [hpend]
  decide

end RateRun

/-- **Rates while pending.**  After any sequence of requests, the next one honours the last rate of a
play that it makes ready if and only if that rate was not nought. -/
theorem remoteVideo_pendingRate {ν : Type} (config : AirPlayRemoteVideoConfig ν)
    (player : AirPlayRemoteVideoSnapshot) (controlPort : UInt16) (calls : List ServedCall)
    (served : ServedCall) :
    let run := RateRun.after config player controlPort calls
    run.HonoursRate config served ↔ (run.BecomesReady config served → ¬run.Paused config) := by
  intro run
  refine forall_congr' fun hready => ?_
  rw [RateRun.startedWith_callbacks hready]
  exact iff_of_eq (by simp only [true_iff])

/-- A module that reads the requests below as `remote_video.c` does. -/
def AirPlayRemoteVideoConfig.pausing : AirPlayRemoteVideoConfig ℕ :=
  { AirPlayRemoteVideoConfig.scrubbing with
    queryNumber := fun uri name =>
      if uri = cstring "/rate?value=0.000000" ∧ name = "value" then some 0 else none }

/-- A `POST /rate` that pauses. -/
def rateRequest : AirPlayRtspRequest :=
  { playRequest with uri := cstring "/rate?value=0.000000", body := [], bodyLength := 0 }

/-- A `POST /action` with a playlist. -/
def actionRequest (requestId : UInt64) (url playlist : String) : AirPlayRtspRequest :=
  { playRequest with
    uri := cstring "/action"
    headers := [⟨cstring "Content-Type", cstring "application/x-apple-binary-plist"⟩]
    body := fcupResponse requestId url playlist
    bodyLength := (fcupResponse requestId url playlist).length }

/-- The master playlist of a play. -/
def masterAction : ServedCall :=
  servedRoute 7 (actionRequest 1 "mlhls://a/master.m3u8" "#EXTM3U\nvideo.m3u8\n")

/-- Its media playlist, the last that is asked for. -/
def mediaAction : ServedCall :=
  servedRoute 7 (actionRequest 2 "mlhls://a/video.m3u8" "#EXTM3U\nsegment.ts\n")

/-- A session pauses while its play is pending, and sends the master playlist. -/
def pausedPlay : RateRun ℕ :=
  .after .pausing .minute 7000
    [servedRoute 7 playLocatorRequest, servedRoute 7 rateRequest, masterAction]

lemma pausedPlay_facts :
    pausedPlay.lastRate = some 0 ∧ pausedPlay.world.remote.state = .pendingHls ∧
      (pausedPlay.next .pausing mediaAction).world.remote.state = .active ∧
      (pausedPlay.next .pausing mediaAction).world.changes = pausedPlay.world.changes := by
  decide +kernel

/-- The play becomes ready and is played although the session has paused it. -/
theorem remoteVideo_pendingRate_lost :
    ¬ ∀ calls served,
      (RateRun.after AirPlayRemoteVideoConfig.pausing .minute 7000 calls).HonoursRate .pausing
        served := by
  intro hclaim
  obtain ⟨hrate, hready⟩ := pausedPlay_facts
  have hhonours : pausedPlay.HonoursRate .pausing mediaAction := hclaim _ mediaAction
  have hplays := RateRun.startedWith_callbacks hready
  exact (hhonours hready).mp hplays ⟨0, hrate, rfl⟩

end NXCast
