import Mathlib.Algebra.Group.Nat.Defs
import Mathlib.Algebra.Group.Int.Defs
import Mathlib.Data.Int.Order.Basic
import Mathlib.Data.Nat.Init
import Mathlib.Order.Nat
import Mathlib.Tactic.Common

/-!
# The mirror clock

`mirror/clock.c`: sender timestamps become presentation timestamps (PTS) of 90000 ticks a
second.  Timestamps keep their machine width, and their differences are read as signed
numbers; ticks are integers.  (`videoPts_lt` of `Timeline` says how long a run must be before
ticks could leave 64 bits.)

The statistics of the clock, and the arrival records and the previous sync they are computed
from, are left out: no result and no timestamp depends on them.
-/

namespace NXCast

/-- `AIRPLAY_MIRROR_CLOCK_TIME_BASE` -/
def clockTimeBase : ℤ := 90000

/-- `AIRPLAY_MIRROR_CLOCK_MAX_SKEW_TICKS` -/
def clockMaxSkewTicks : ℤ := 2 * clockTimeBase

/-- `AIRPLAY_CLOCK_CORRECTION_DEADBAND_TICKS` -/
def clockCorrectionDeadbandTicks : ℤ := 90

/-- `AIRPLAY_CLOCK_MAX_CORRECTION_TICKS` -/
def clockMaxCorrectionTicks : ℤ := 450

/-- `AIRPLAY_CLOCK_SYNC_JUMP_TICKS` -/
def clockSyncJumpTicks : ℤ := 22500

/-- `AIRPLAY_CLOCK_VIDEO_BACKWARD_TICKS` -/
def clockVideoBackwardTicks : ℤ := 9000

/-- `AIRPLAY_CLOCK_VIDEO_FORWARD_TICKS` -/
def clockVideoForwardTicks : ℤ := 900000

/-- `AirPlayMirrorClockResult` -/
inductive AirPlayMirrorClockResult where
  | ok
  | waitingForSync
  | discontinuity
  | outOfRange
deriving DecidableEq, Repr

/-- `AirPlayMirrorVideoTimeline` -/
structure AirPlayMirrorVideoTimeline where
  anchorNtp : UInt64
  anchorPts : ℤ
  lastNtp : UInt64
  lastPts : ℤ
deriving DecidableEq

/-- `AirPlayMirrorClock`, without its statistics. -/
structure AirPlayMirrorClock where
  sampleRate : UInt32
  videoAnchorNtp : UInt64
  videoAnchorPts : ℤ
  lastVideoNtp : UInt64
  lastVideoPts : ℤ
  lastAudioPts : ℤ
  audioSyncRtp : UInt32
  audioSyncNtp : UInt64
  audioAdjustTicks : ℤ
  videoReady : Bool
  audioSyncReady : Bool
  audioReady : Bool
  audioOnly : Bool
deriving DecidableEq

/-- What `airplay_mirror_clock_create` and `airplay_mirror_clock_reset` leave. -/
def AirPlayMirrorClock.fresh (sampleRate : UInt32) (audioOnly : Bool) : AirPlayMirrorClock :=
  ⟨sampleRate, 0, 0, 0, 0, 0, 0, 0, 0, false, false, false, audioOnly⟩

/-! ## Differences -/

/-- The difference of two NTP timestamps, read as a signed number. -/
def ntpDelta (timestamp anchor : UInt64) : ℤ := (timestamp - anchor).toBitVec.toInt

/-- The difference of two RTP timestamps, read as a signed number. -/
def rtpDelta (timestamp anchor : UInt32) : ℤ := (timestamp - anchor).toBitVec.toInt

/-- Ticks of a signed number of NTP units. -/
def ticksOfNtp (delta : ℤ) : ℤ :=
  delta.tdiv (2 ^ 32) * clockTimeBase + (delta.tmod (2 ^ 32) * clockTimeBase).tdiv (2 ^ 32)

/-- `ntp_delta_to_90k` -/
def ntpDeltaTo90k (timestamp anchor : UInt64) : ℤ := ticksOfNtp (ntpDelta timestamp anchor)

namespace AirPlayMirrorClock

/-- `map_video_ntp` -/
def mapVideoNtp (clock : AirPlayMirrorClock) (ntpTimestamp : UInt64) : ℤ :=
  clock.videoAnchorPts + ntpDeltaTo90k ntpTimestamp clock.videoAnchorNtp

/-- Where the audio mapping puts an RTP timestamp. -/
def mapAudioRtp (clock : AirPlayMirrorClock) (rtpTimestamp : UInt32) : ℤ :=
  clock.mapVideoNtp clock.audioSyncNtp + clock.audioAdjustTicks +
    (rtpDelta rtpTimestamp clock.audioSyncRtp * clockTimeBase).tdiv clock.sampleRate.toNat

/-- `reset_audio_mapping` -/
def resetAudioMapping (clock : AirPlayMirrorClock) : AirPlayMirrorClock :=
  { clock with audioSyncReady := false, audioReady := false, audioAdjustTicks := 0 }

/-- `airplay_mirror_clock_set_audio_only` -/
def setAudioOnly (audioOnly : Bool) (clock : AirPlayMirrorClock) : AirPlayMirrorClock :=
  { clock with audioOnly }

/-- `airplay_mirror_clock_set_audio_rate` -/
def setAudioRate (sampleRate : UInt32) (clock : AirPlayMirrorClock) : Bool × AirPlayMirrorClock :=
  if sampleRate < 8000 ∨ 192000 < sampleRate then (false, clock)
  else
    let clock :=
      if clock.sampleRate ≠ 0 ∧ clock.sampleRate ≠ sampleRate then clock.resetAudioMapping
      else clock
    (true, { clock with sampleRate })

/-- The first part of `airplay_mirror_clock_update_audio_sync`: without video, the first sync is
the anchor. -/
def anchorAudioOnly (ntpTimestamp : UInt64) (clock : AirPlayMirrorClock) : AirPlayMirrorClock :=
  if clock.audioOnly && !clock.videoReady then
    { clock with
      videoAnchorNtp := ntpTimestamp
      videoAnchorPts := 0
      lastVideoNtp := ntpTimestamp
      lastVideoPts := 0
      videoReady := true }
  else clock

variable (rtpTimestamp : UInt32)

/-- How far a sync lies from where the mapping before it puts it. -/
def syncCorrection (ntpTimestamp : UInt64) (clock : AirPlayMirrorClock) :
    ℤ :=
  clock.mapVideoNtp ntpTimestamp - clock.mapAudioRtp rtpTimestamp

/-- The second part of `airplay_mirror_clock_update_audio_sync`: the mapping is slewed towards
the sync, or given up when the sync jumps. -/
def correctAudio (ntpTimestamp : UInt64) (clock : AirPlayMirrorClock) :
    AirPlayMirrorClockResult × AirPlayMirrorClock :=
  let predicted := clock.mapAudioRtp rtpTimestamp
  let observed := clock.mapVideoNtp ntpTimestamp
  let correction := clock.syncCorrection rtpTimestamp ntpTimestamp
  if clockSyncJumpTicks < correction.natAbs then
    (.discontinuity, { clock with audioAdjustTicks := 0, audioReady := false })
  else if clockCorrectionDeadbandTicks < correction.natAbs then
    let applied := max (-clockMaxCorrectionTicks) (min clockMaxCorrectionTicks correction)
    (.ok, { clock with audioAdjustTicks := predicted + applied - observed })
  else (.ok, { clock with audioAdjustTicks := predicted - observed })

/-- `airplay_mirror_clock_update_audio_sync` -/
def updateAudioSync (ntpTimestamp : UInt64) (clock : AirPlayMirrorClock) :
    AirPlayMirrorClockResult × AirPlayMirrorClock :=
  if clock.sampleRate = 0 ∨ ntpTimestamp = 0 then (.outOfRange, clock)
  else
    let clock := clock.anchorAudioOnly ntpTimestamp
    let (result, clock) :=
      if clock.audioSyncReady && clock.videoReady then
        clock.correctAudio rtpTimestamp ntpTimestamp
      else (.ok, clock)
    (result,
      { clock with
        audioSyncRtp := rtpTimestamp
        audioSyncNtp := ntpTimestamp
        audioSyncReady := true })

/-- A video timestamp that does not continue the timeline. -/
def videoJumps (ntpTimestamp : UInt64) (clock : AirPlayMirrorClock) : Bool :=
  decide (ntpDeltaTo90k ntpTimestamp clock.lastVideoNtp < -clockVideoBackwardTicks ∨
    clockVideoForwardTicks < ntpDeltaTo90k ntpTimestamp clock.lastVideoNtp)

/-- `airplay_mirror_clock_map_video`: its result, what it stores, and the clock. -/
def mapVideo (ntpTimestamp : UInt64) (clock : AirPlayMirrorClock) :
    AirPlayMirrorClockResult × Option ℤ × AirPlayMirrorClock :=
  if ntpTimestamp = 0 then (.outOfRange, none, clock)
  else if clock.videoReady = false then
    (.ok, some 0,
      { clock with
        videoAnchorNtp := ntpTimestamp
        videoAnchorPts := 0
        videoReady := true
        lastVideoNtp := ntpTimestamp
        lastVideoPts := 0 })
  else if clock.videoJumps ntpTimestamp then
    let pts := clock.lastVideoPts + 1
    (.discontinuity, some pts,
      { clock.resetAudioMapping with
        videoAnchorNtp := ntpTimestamp
        videoAnchorPts := pts
        lastVideoNtp := ntpTimestamp
        lastVideoPts := pts })
  else
    let mapped := clock.mapVideoNtp ntpTimestamp
    let pts := if mapped ≤ clock.lastVideoPts then clock.lastVideoPts + 1 else mapped
    (.ok, some pts, { clock with lastVideoNtp := ntpTimestamp, lastVideoPts := pts })

/-- `airplay_mirror_clock_map_audio`: its result, what it stores, and the clock. -/
def mapAudio (clock : AirPlayMirrorClock) :
    AirPlayMirrorClockResult × Option ℤ × AirPlayMirrorClock :=
  if clock.sampleRate = 0 then (.outOfRange, none, clock)
  else if !clock.videoReady || !clock.audioSyncReady then (.waitingForSync, none, clock)
  else
    let mapped := clock.mapAudioRtp rtpTimestamp
    if mapped < 0 ∨
        (clock.videoReady = true ∧ clockMaxSkewTicks < (mapped - clock.lastVideoPts).natAbs) then
      (.outOfRange, none, clock)
    else
      let pts :=
        if clock.audioReady = true ∧ mapped ≤ clock.lastAudioPts then clock.lastAudioPts + 1
        else mapped
      (.ok, some pts, { clock with lastAudioPts := pts, audioReady := true })

/-- `airplay_mirror_clock_set_video_timeline` -/
def setVideoTimeline (timeline : AirPlayMirrorVideoTimeline) (clock : AirPlayMirrorClock) :
    AirPlayMirrorClock :=
  let clock :=
    if clock.videoReady = true ∧ (clock.videoAnchorNtp ≠ timeline.anchorNtp ∨
        clock.videoAnchorPts ≠ timeline.anchorPts) then clock.resetAudioMapping
    else clock
  { clock with
    audioOnly := false
    videoReady := true
    videoAnchorNtp := timeline.anchorNtp
    videoAnchorPts := timeline.anchorPts
    lastVideoNtp := timeline.lastNtp
    lastVideoPts := timeline.lastPts }

end AirPlayMirrorClock

/-! ## Runs -/

/-- The operations between two resets. -/
inductive ClockOp where
  | mapVideo (ntpTimestamp : UInt64)
  | mapAudio (rtpTimestamp : UInt32)
  | updateAudioSync (rtpTimestamp : UInt32) (ntpTimestamp : UInt64)
  | setAudioRate (sampleRate : UInt32)
  | setAudioOnly (audioOnly : Bool)
  | setVideoTimeline (timeline : AirPlayMirrorVideoTimeline)
deriving DecidableEq

/-- The PTS that an operation returns, and of which kind. -/
inductive ClockOutput where
  | none
  | video (result : AirPlayMirrorClockResult) (pts : ℤ)
  | audio (result : AirPlayMirrorClockResult) (pts : ℤ)
deriving DecidableEq

open AirPlayMirrorClock in
/-- One operation. -/
def clockStep (op : ClockOp) (clock : AirPlayMirrorClock) : ClockOutput × AirPlayMirrorClock :=
  match op with
  | .mapVideo ntpTimestamp =>
    let (result, pts, clock) := clock.mapVideo ntpTimestamp
    ((pts.map (.video result)).getD .none, clock)
  | .mapAudio rtpTimestamp =>
    let (result, pts, clock) := clock.mapAudio rtpTimestamp
    ((pts.map (.audio result)).getD .none, clock)
  | .updateAudioSync rtpTimestamp ntpTimestamp =>
    (.none, (clock.updateAudioSync rtpTimestamp ntpTimestamp).2)
  | .setAudioRate sampleRate => (.none, (clock.setAudioRate sampleRate).2)
  | .setAudioOnly audioOnly => (.none, clock.setAudioOnly audioOnly)
  | .setVideoTimeline timeline => (.none, clock.setVideoTimeline timeline)

/-- A run: what its operations return, and the clock it leaves. -/
def clockRun : List ClockOp → AirPlayMirrorClock → List ClockOutput × AirPlayMirrorClock
  | [], clock => ([], clock)
  | op :: ops, clock =>
    let (output, clock) := clockStep op clock
    let (later, clock) := clockRun ops clock
    (output :: later, clock)

/-- The PTS returned by `map_video`. -/
def ClockOutput.videoPts? : ClockOutput → Option ℤ
  | .video _ pts => some pts
  | _ => Option.none

/-- The PTS returned by `map_audio`. -/
def ClockOutput.audioPts? : ClockOutput → Option ℤ
  | .audio _ pts => some pts
  | _ => Option.none

end NXCast
