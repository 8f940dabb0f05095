import NXCast.Framework.Commitment
import NXCast.Media.RemoteVideo

/-!
# The sections of remote video

What each program of the module consists of: if the sections of every kind are of `Q`, so are those of
the programs.  The hypotheses come in groups, since most programs have only a few kinds of sections.
The kind that is used most is that of the sections that change the world in a good way wherever they
run.
-/

namespace NXCast

open Interleaving Thread.All

/-- A callback that takes the player or puts something into it. -/
def RemoteVideoOp.starts : RemoteVideoOp → Bool
  | .claimOwner _ => true
  | .load _ _ => true
  | .play => true
  | _ => false

namespace RemoteVideo

/-- Callbacks that neither start nor seek and calls of the HLS store are good. -/
structure BackgroundKeeps {ν : Type} (good : RemoteVideoWorld ν → RemoteVideoWorld ν → Prop) :
    Prop where
  refl : ∀ world, good world world
  record : ∀ (world : RemoteVideoWorld ν) handler session generation op,
    handler ≠ .action ∨ op.starts = false → (∀ position, op ≠ .seekMs position) →
    good world (world.record handler session generation op)
  hls : ∀ (world : RemoteVideoWorld ν) hls,
    good world { world with remote := { world.remote with hls } }

/-- The sections of the calls that neither play nor seek are good, too. -/
structure ControlsKeep {ν : Type} (config : AirPlayRemoteVideoConfig ν)
    (good : RemoteVideoWorld ν → RemoteVideoWorld ν → Prop) : Prop
    extends BackgroundKeeps good where
  failGeneration : ∀ session failed world,
    good world (failGenerationSection config session failed world).2
  terminate : ∀ session world, good world (terminateSection config session world).2
  closed : ∀ session world, good world (closedSection config session world).2
  ready : ∀ session action granted loaded played world,
    good world (readySection config session action granted loaded played world).2
  rate : ∀ session rate world, good world (rateSection session rate world).2
  reattach : ∀ session world, good world (reattachSection session world).2
  environment : ∀ (world : RemoteVideoWorld ν) player controlPort,
    good world { world with player, controlPort }

/-- All sections are good. -/
structure SectionsKeep {ν : Type} (config : AirPlayRemoteVideoConfig ν)
    (good : RemoteVideoWorld ν → RemoteVideoWorld ν → Prop) : Prop
    extends ControlsKeep config good where
  play : ∀ session play reverseHls world,
    good world (playSection config session play reverseHls world).2
  complete : ∀ session play locals claim loaded played world,
    good world (completePlaySection config session play locals claim loaded played world).2
  refused : ∀ session locals world, good world (refusedSection config session locals world)
  pendingSeek : ∀ session snapshot world,
    good world (pendingSeekSection config session snapshot world).2
  scrub : ∀ session positionMs world, good world (scrubSection session positionMs world).2
  scrubbed : ∀ session world, good world (scrubbedSection session world)
  seek : ∀ (world : RemoteVideoWorld ν) handler session generation position,
    good world (world.record handler session generation (.seekMs position))

/-- Callbacks that neither start nor seek, calls of the HLS store and sections that only read are of
`Q`. -/
structure BackgroundSections {ν : Type} (Q : (RemoteVideoWorld ν → RemoteVideoWorld ν) → Prop) :
    Prop where
  read : Q id
  record : ∀ handler session generation op,
    handler ≠ .action ∨ op.starts = false → (∀ position, op ≠ .seekMs position) →
    Q fun world => world.record handler session generation op
  hls : ∀ hls : RemoteVideoWorld ν → AirPlayRemoteHls,
    Q fun world => { world with remote := { world.remote with hls := hls world } }

/-- The sections of the calls that neither play nor seek are of `Q`, too. -/
structure ControlSections {ν : Type} (config : AirPlayRemoteVideoConfig ν)
    (Q : (RemoteVideoWorld ν → RemoteVideoWorld ν) → Prop) : Prop
    extends BackgroundSections Q where
  failGeneration : ∀ session failed,
    Q fun world => (failGenerationSection config session failed world).2
  terminate : ∀ session, Q fun world => (terminateSection config session world).2
  closed : ∀ session, Q fun world => (closedSection config session world).2
  ready : ∀ session action granted loaded played,
    Q fun world => (readySection config session action granted loaded played world).2
  rate : ∀ session rate, Q fun world => (rateSection session rate world).2
  reattach : ∀ session, Q fun world => (reattachSection session world).2
  environment : ∀ player controlPort, Q fun world => { world with player, controlPort }

/-- All sections are of `Q`. -/
structure AllSections {ν : Type} (config : AirPlayRemoteVideoConfig ν)
    (Q : (RemoteVideoWorld ν → RemoteVideoWorld ν) → Prop) : Prop
    extends ControlSections config Q where
  play : ∀ session play reverseHls,
    Q fun world => (playSection config session play reverseHls world).2
  complete : ∀ session play locals claim loaded played,
    Q fun world => (completePlaySection config session play locals claim loaded played world).2
  refused : ∀ session locals, Q (refusedSection config session locals)
  pendingSeek : ∀ session snapshot,
    Q fun world => (pendingSeekSection config session snapshot world).2
  scrub : ∀ session positionMs, Q fun world => (scrubSection session positionMs world).2
  scrubbed : ∀ session, Q (scrubbedSection session)
  seek : ∀ handler session generation position,
    Q fun world => world.record handler session generation (.seekMs position)

section Programs

variable {ν : Type} {config : AirPlayRemoteVideoConfig ν} {handler : RemoteVideoHandler}
  {session : UInt64} {Q : (RemoteVideoWorld ν → RemoteVideoWorld ν) → Prop}

namespace BackgroundSections

variable (h : BackgroundSections Q)

include h

lemma notify {op : RemoteVideoOp} (hop : handler ≠ .action ∨ op.starts = false)
    (hseek : ∀ position, op ≠ .seekMs position) (generation : Option UInt32) :
    (notify handler session generation op : RemoteVideoThread ν Unit).All Q :=
  modify (h.record handler session generation op hop hseek)

lemma callback {op : RemoteVideoOp} (hop : handler ≠ .action ∨ op.starts = false)
    (hseek : ∀ position, op ≠ .seekMs position) (generation : Option UInt32) :
    (callback handler session generation op : RemoteVideoThread ν Bool).All Q :=
  answer.bind fun _ => (h.notify hop hseek generation).bind fun _ =>
    .pure _

lemma releaseOwner (generation : Option UInt32) (claim : Option ℕ) :
    (releaseOwner config handler session generation claim).All Q :=
  .ite (fun _ => h.notify (.inr rfl) (by simp) generation) fun _ => .pure _

lemma claimOwner (hhand : handler ≠ .action) (generation : Option UInt32) :
    (claimOwner handler session generation : RemoteVideoThread ν (Option ℕ)).All Q :=
  answer.bind fun _ =>
    atomic (h.record handler session generation _ (.inl hhand) (by simp))

lemma resetHls (hlsGeneration : UInt32) :
    (resetHls session hlsGeneration : RemoteVideoThread ν Unit).All Q :=
  modify (h.hls _)

lemma sendHlsEvent (generation : Option UInt32) (event : AirPlayRemoteHlsEvent) :
    (sendHlsEvent config handler session generation event).All Q :=
  .ite (fun _ => .pure _) fun _ => h.callback (.inr rfl) (by simp) generation

lemma get {α : Type} (read : RemoteVideoWorld ν → α) : (Thread.get read).All Q :=
  Thread.All.get h.read read

lemma finishPlayback (hlsGeneration : UInt32) (ended : RemoteVideoEnd) :
    (finishPlayback config handler session hlsGeneration ended).All Q := by
  refine (h.resetHls hlsGeneration).bind fun _ => .bind ?_ fun _ =>
    .bind ?_ fun _ => .pure _
  · exact .ite (fun _ => h.callback (.inr rfl) (by simp) _) fun _ => .pure _
  split
  · exact h.releaseOwner _ _
  · exact .pure _

lemma endReplaced (locals : PlayLocals) : (endReplaced config locals).All Q := by
  refine .bind ?_ fun _ => h.resetHls 0
  split
  · exact (h.finishPlayback _ _).bind fun _ => .pure _
  · exact .pure _

lemma readSnapshot :
    (readSnapshot : RemoteVideoThread ν (Option AirPlayRemoteVideoSnapshot)).All Q :=
  answer.bind fun _ => (h.get _).bind fun _ => .pure _

end BackgroundSections

namespace ControlSections

variable (h : ControlSections config Q)

include h

lemma all_failGeneration (failed : UInt32) :
    (RemoteVideo.failGeneration config handler session failed).All Q :=
  (atomic (h.failGeneration session failed)).bind fun _ =>
    (h.finishPlayback failed _).bind fun _ => .pure _

lemma all_terminateSession : (terminateSession config session).All Q := by
  refine .ite (fun _ => .pure _) fun _ =>
    (atomic (h.terminate session)).bind fun ended => ?_
  cases ended with
  | none => exact .pure _
  | some ended => exact (h.finishPlayback _ _).bind fun _ => .pure _

lemma all_handleReady (action : AirPlayRemoteHlsAction) (response : AirPlayRtspResponse) :
    (handleReady config session action response).All Q := by
  refine .ite (fun _ => (h.get _).bind fun _ => .ite (fun _ => ?_)
    fun _ => .pure _) fun _ => answer.bind fun granted =>
      answer.bind fun loaded => answer.bind fun played =>
        (atomic (h.ready session action granted loaded played)).bind fun outcome => ?_
  · exact (h.all_failGeneration _).bind fun _ => .pure _
  cases outcome with
  | stale | started => exact .pure _
  | refused => exact (h.all_failGeneration _).bind fun _ => .pure _
  | failed claim => exact (h.finishPlayback _ _).bind fun _ => .pure _

variable (request : AirPlayRtspRequest)

variable (response : AirPlayRtspResponse)

lemma all_handleAction : (handleAction config session request response).All Q := by
  refine .ite (fun _ => .pure _) fun _ =>
    .ite (fun _ => .pure _) fun _ => .bind ?_ fun taken =>
      .ite (fun _ => .pure _) fun _ => ?_
  · exact atomic (h.hls _)
  split
  · exact .pure _
  · refine (h.get _).bind fun _ => .ite (fun _ => ?_) fun _ => .pure _
    refine .bind ?_ fun _ => .ite (fun _ => .pure _) fun _ =>
      (h.all_failGeneration _).bind fun _ => .pure _
    split
    · exact h.sendHlsEvent _ _
    · exact .pure _
  · exact h.all_handleReady _ response

lemma all_handleRate : (handleRate config session request response).All Q := by
  refine .ite (fun _ => .pure _) fun _ => (h.get _).bind fun _ =>
    .ite (fun _ => ?_) fun _ => .pure _
  split
  · exact .pure _
  refine .ite (fun _ => .pure _) fun _ =>
    (atomic (h.rate session _)).bind fun _ =>
      .ite (fun _ => .pure _) fun _ =>
        .bind (h.callback (.inl (by decide)) (by intro; split <;> simp) none)
          fun _ => .ite (fun _ => .pure _) fun _ => .pure _

lemma all_handleStop : (handleStop config session request response).All Q := by
  refine .ite (fun _ => .pure _) fun _ =>
    h.all_terminateSession.bind fun ended => ?_
  cases ended with
  | none | some => exact .pure _

lemma all_sessionClosed : (airplayRemoteVideoSessionClosed config session).All Q := by
  refine .ite (fun _ => .pure _) fun _ =>
    (atomic (h.closed session)).bind fun outcome => ?_
  cases outcome with
  | pending generation => exact h.resetHls generation
  | detached =>
    exact .ite (fun _ => h.notify (.inr rfl) (by simp) none) fun _ => .pure _
  | other => exact .pure _

lemma all_relinquishSession : (airplayRemoteVideoRelinquishSession config session).All Q := by
  refine .ite (fun _ => .pure _) fun _ =>
    (atomic (h.terminate session)).bind fun ended => ?_
  cases ended with
  | none => exact .pure _
  | some ended => exact (h.resetHls _).bind fun _ => .pure _

lemma all_attach (reattached : Bool) :
    ((if reattached && config.controlAttached then
        RemoteVideo.notify .route session none .controlAttached
      else Pure.pure ()) : RemoteVideoThread ν Unit).All Q :=
  .ite (fun _ => h.notify (.inr rfl) (by simp) none) fun _ => .pure _

end ControlSections

namespace AllSections

variable (h : AllSections config Q)

include h

variable (play : AirPlayRemotePlayRequest ν)

lemma all_playHls (controlPort : UInt16) (appleSessionId : CString)
    (response : AirPlayRtspResponse) :
    (playHls config session play controlPort appleSessionId response).All Q := by
  refine (atomic (h.play session play true)).bind fun locals =>
    (h.endReplaced locals).bind fun _ => .bind ?_ fun begun =>
      .bind ?_ fun accepted => .ite (fun _ => .pure _) fun _ =>
        (h.all_failGeneration _).bind fun _ => .pure _
  · exact atomic (h.hls _)
  split
  · exact h.sendHlsEvent _ _
  · exact .pure _

lemma all_completePlay (locals : PlayLocals) (claim : Option ℕ) (response : AirPlayRtspResponse) :
    (completePlay config session play locals claim response).All Q := by
  refine answer.bind fun loaded => answer.bind fun played =>
    (atomic (h.complete session play locals claim loaded played)).bind fun outcome => ?_
  have hstale : (if config.claimOwner then do
        RemoteVideo.releaseOwner config .play session (some locals.generation) claim
        return response.setStatus 409
      else return response.setStatus 409 : RemoteVideoThread ν (Option AirPlayRtspResponse)).All
        Q :=
    .ite (fun _ => (h.releaseOwner _ _).bind fun _ => .pure _) fun _ => .pure _
  cases outcome with
  | started => exact .pure _
  | failed claim =>
    refine (h.callback (.inr rfl) (by simp) _).bind fun _ => .bind ?_ fun _ =>
      .pure _
    split
    · exact h.releaseOwner _ _
    · exact .pure _
  | stale | refused => exact hstale

lemma all_playDirect (response : AirPlayRtspResponse) :
    (playDirect config session play response).All Q := by
  refine (atomic (h.play session play false)).bind fun locals =>
    (h.endReplaced locals).bind fun _ => .ite (fun _ => ?_)
      fun _ => h.all_completePlay play locals none response
  refine (h.claimOwner (by decide) _).bind fun claim => ?_
  cases claim with
  | none =>
    exact (modify (h.refused session locals)).bind fun _ => .pure _
  | some claim => exact h.all_completePlay play locals (some claim) response

variable (request : AirPlayRtspRequest)

variable (response : AirPlayRtspResponse)

lemma all_handlePlay : (handlePlay config session request response).All Q := by
  refine .ite (fun _ => .pure _) fun _ => ?_
  split
  · exact .pure _
  refine .ite (fun _ => ?_) fun _ => h.all_playDirect _ response
  split
  · exact .pure _
  · exact .ite (fun _ => .pure _) fun _ => (h.get _).bind fun _ =>
      .ite (fun _ => .pure _) fun _ => h.all_playHls _ _ _ _

lemma all_seek (generation : Option UInt32) (position : ℤ) :
    (RemoteVideo.callback handler session generation (.seekMs position) :
      RemoteVideoThread ν Bool).All Q :=
  answer.bind fun _ => .bind (modify (h.seek handler session generation position)) fun _ => .pure _

lemma all_applyPendingSeek (snapshot : AirPlayRemoteVideoSnapshot) :
    (applyPendingSeek config handler session snapshot).All Q := by
  refine .ite (fun _ => .pure _) fun _ =>
    (atomic (h.pendingSeek session snapshot)).bind fun target => ?_
  cases target with
  | none => exact .pure _
  | some target => exact h.all_seek none _

lemma all_snapshotForSession : (snapshotForSession config handler session).All Q := by
  refine (h.get _).bind fun _ => .ite (fun _ => ?_) fun _ => .pure _
  refine h.readSnapshot.bind fun snapshot => ?_
  cases snapshot with
  | none => exact .pure _
  | some snapshot =>
    exact (h.all_applyPendingSeek snapshot).bind fun _ =>
      .ite (fun _ => h.readSnapshot) fun _ => .pure _

lemma all_handleScrub : (handleScrub config session request response).All Q := by
  refine (h.get _).bind fun _ => .ite (fun _ => .ite (fun _ => ?_)
    fun _ => .ite (fun _ => ?_) fun _ => .pure _) fun _ =>
      .pure _
  · split
    · exact .pure _
    refine (atomic (h.scrub session _)).bind fun _ =>
      .ite (fun _ => .pure _) fun _ =>
        .ite (fun _ => .pure _) fun _ =>
          (h.all_seek none _).bind fun _ => .ite (fun _ => ?_) fun _ => .pure _
    exact (modify (h.scrubbed session)).bind fun _ => .pure _
  · refine h.all_snapshotForSession.bind fun snapshot => ?_
    cases snapshot with
    | none | some => exact .pure _

lemma all_handlePlaybackInfo : (handlePlaybackInfo config session request response).All Q := by
  refine .ite (fun _ => .pure _) fun _ => (h.get _).bind fun _ =>
    .bind ?_ fun snapshot => ?_
  · exact .ite (fun _ => .pure _) fun _ => h.all_snapshotForSession
  cases snapshot with
  | none => exact .pure _
  | some snapshot =>
    refine (h.get _).bind fun _ => ?_
    split
    all_goals exact .pure _

lemma all_route : (airplayRemoteVideoRoute config session request response).All Q := by
  refine .ite (fun _ => .pure _) fun _ =>
    (atomic (h.reattach session)).bind fun _ =>
      (h.all_attach _).bind fun _ => ?_
  refine .ite (fun _ => ?_) fun _ => .ite (fun _ => ?_) fun _ =>
    .ite (fun _ => ?_) fun _ => .ite (fun _ => ?_) fun _ =>
      .ite (fun _ => ?_) fun _ => .ite (fun _ => ?_) fun _ =>
        .pure _
  · exact (h.all_handlePlay request response).bind fun _ => .pure _
  · exact (h.all_handleAction request response).bind fun _ => .pure _
  · exact (h.all_handleRate request response).bind fun _ => .pure _
  · exact (h.all_handleScrub request response).bind fun _ => .pure _
  · exact (h.all_handlePlaybackInfo request response).bind fun _ => .pure _
  · exact (h.all_handleStop request response).bind fun _ => .pure _

/-- Every call consists of sections of `Q`. -/
lemma all_program (call : RemoteVideoCall) : (call.program config).All Q := by
  cases call with
  | route session request response =>
    exact (h.all_route request response).bind fun _ => .pure _
  | sessionClosed session => exact h.all_sessionClosed
  | terminateSession session =>
    refine .bind ?_ fun _ => .pure _
    exact h.all_terminateSession.bind fun _ => .pure _
  | relinquishSession session =>
    exact h.all_relinquishSession.bind fun _ => .pure _
  | environment player controlPort =>
    exact modify (h.environment player controlPort)

end AllSections

/-! ## Good sections -/

variable {good : RemoteVideoWorld ν → RemoteVideoWorld ν → Prop}

namespace BackgroundKeeps

variable (h : BackgroundKeeps good)

include h

lemma sections : BackgroundSections fun effect => ∀ world, good world (effect world) where
  read := h.refl
  record handler session generation op hop hseek world :=
    h.record world handler session generation op hop hseek
  hls hls world := h.hls world (hls world)

lemma callback {op : RemoteVideoOp} (hop : handler ≠ .action ∨ op.starts = false)
    (hseek : ∀ position, op ≠ .seekMs position) (generation : Option UInt32) :
    (callback handler session generation op : RemoteVideoThread ν Bool).Keeps good :=
  (h.sections.callback hop hseek generation).keeps

lemma releaseOwner (generation : Option UInt32) (claim : Option ℕ) :
    (releaseOwner config handler session generation claim).Keeps good :=
  (h.sections.releaseOwner generation claim).keeps

lemma claimOwner (hhand : handler ≠ .action) (generation : Option UInt32) :
    (claimOwner handler session generation : RemoteVideoThread ν (Option ℕ)).Keeps good :=
  (h.sections.claimOwner hhand generation).keeps

lemma sendHlsEvent (generation : Option UInt32) (event : AirPlayRemoteHlsEvent) :
    (sendHlsEvent config handler session generation event).Keeps good :=
  (h.sections.sendHlsEvent generation event).keeps

lemma finishPlayback (hlsGeneration : UInt32) (ended : RemoteVideoEnd) :
    (finishPlayback config handler session hlsGeneration ended).Keeps good :=
  (h.sections.finishPlayback hlsGeneration ended).keeps

lemma endReplaced (locals : PlayLocals) : (endReplaced config locals).Keeps good :=
  (h.sections.endReplaced locals).keeps

lemma readSnapshot :
    (readSnapshot : RemoteVideoThread ν (Option AirPlayRemoteVideoSnapshot)).Keeps good :=
  h.sections.readSnapshot.keeps

end BackgroundKeeps

namespace ControlsKeep

variable (h : ControlsKeep config good)

include h

lemma control_sections :
    ControlSections config fun effect => ∀ world, good world (effect world) where
  toBackgroundSections := h.toBackgroundKeeps.sections
  failGeneration := h.failGeneration
  terminate := h.terminate
  closed := h.closed
  ready := h.ready
  rate := h.rate
  reattach := h.reattach
  environment player controlPort world := h.environment world player controlPort

lemma keeps_terminateSession : (terminateSession config session).Keeps good :=
  h.control_sections.all_terminateSession.keeps

lemma keeps_relinquishSession : (airplayRemoteVideoRelinquishSession config session).Keeps good :=
  h.control_sections.all_relinquishSession.keeps

lemma keeps_sessionClosed : (airplayRemoteVideoSessionClosed config session).Keeps good :=
  h.control_sections.all_sessionClosed.keeps

variable (request : AirPlayRtspRequest)

variable (response : AirPlayRtspResponse)

lemma keeps_handleAction : (handleAction config session request response).Keeps good :=
  (h.control_sections.all_handleAction request response).keeps

lemma keeps_handleRate : (handleRate config session request response).Keeps good :=
  (h.control_sections.all_handleRate request response).keeps

lemma keeps_handleStop : (handleStop config session request response).Keeps good :=
  (h.control_sections.all_handleStop request response).keeps

end ControlsKeep

namespace SectionsKeep

variable (h : SectionsKeep config good)

include h

lemma all_sections : AllSections config fun effect => ∀ world, good world (effect world) where
  toControlSections := h.toControlsKeep.control_sections
  play := h.play
  complete := h.complete
  refused := h.refused
  pendingSeek := h.pendingSeek
  scrub := h.scrub
  scrubbed := h.scrubbed
  seek handler session generation position world :=
    h.seek world handler session generation position

lemma keeps_program (call : RemoteVideoCall) : (call.program config).Keeps good :=
  (h.all_sections.all_program call).keeps

end SectionsKeep

end Programs

end RemoteVideo

end NXCast
