import Mathlib.Tactic.Linarith
import NXCast.Framework.Runs
import NXCast.Mirror.Timeline

/-!
# How far the audio mapping strays

Over every run of the clock, resets included.  A sync moves the audio mapping by one correction
at most and by what two truncated divisions lose (`audioSlew_bounded`).  `map_audio` checks the
skew of what the mapping says, and then raises it above the last audio PTS: the check bounds the
mapped value, and the PTS only while the last audio PTS is below the limit (`audioPts_bounds`).
-/

namespace NXCast

open AirPlayMirrorClock

/-! ## Runs with resets -/

/-- The calls on a clock. -/
inductive ClockCall where
  | op (op : ClockOp)
  | reset
deriving DecidableEq

variable (clock : AirPlayMirrorClock)

/-- `airplay_mirror_clock_reset` -/
def AirPlayMirrorClock.reset : AirPlayMirrorClock :=
  .fresh clock.sampleRate clock.audioOnly

/-- The clock after a call. -/
def clockCallStep : ClockCall → AirPlayMirrorClock
  | .op op => (clockStep op clock).2
  | .reset => clock.reset

/-- A clock that some calls lead to, from `airplay_mirror_clock_create` on. -/
abbrev ClockReachable (clock : AirPlayMirrorClock) : Prop :=
  Runs.Reachable clockCallStep (.fresh 0 false) (fun _ _ => True) clock

/-- What the bounds rest on: the adjustment is a correction that was no jump, and audio starts
at a PTS that is not negative. -/
structure AirPlayMirrorClock.Bounded (clock : AirPlayMirrorClock) : Prop where
  adjust : clock.audioAdjustTicks.natAbs ≤ clockSyncJumpTicks
  audio : clock.audioReady = true → 0 ≤ clock.lastAudioPts

section Bounded

variable {clock : AirPlayMirrorClock}

lemma bounded_of_dropped (hadjust : clock.audioAdjustTicks = 0) (haudio : clock.audioReady = false) :
    clock.Bounded where
  adjust := by
    rw [hadjust]
    decide
  audio hready := by
    rw [haudio] at hready
    cases hready

lemma bounded_fresh (sampleRate : UInt32) (audioOnly : Bool) :
    (fresh sampleRate audioOnly).Bounded := bounded_of_dropped rfl rfl

lemma bounded_resetAudioMapping (clock : AirPlayMirrorClock) : clock.resetAudioMapping.Bounded :=
  bounded_of_dropped rfl rfl

lemma AirPlayMirrorClock.Bounded.of_same {after : AirPlayMirrorClock} (h : clock.Bounded)
    (hadjust : after.audioAdjustTicks = clock.audioAdjustTicks)
    (hready : after.audioReady = clock.audioReady)
    (hlast : after.lastAudioPts = clock.lastAudioPts) : after.Bounded where
  adjust := by
    rw [hadjust]
    exact h.adjust
  audio := by
    rw [hready, hlast]
    exact h.audio

lemma bounded_mapVideo (h : clock.Bounded) (ntpTimestamp : UInt64) :
    (clock.mapVideo ntpTimestamp).2.2.Bounded := by
  unfold mapVideo
  split
  · exact h
  split
  · exact h.of_same rfl rfl rfl
  split
  · exact (bounded_resetAudioMapping clock).of_same rfl rfl rfl
  · exact h.of_same rfl rfl rfl

lemma natAbs_adjust_le {predicted observed correction : ℤ}
    (hcorrection : observed - predicted = correction)
    (hjump : ¬ clockSyncJumpTicks < correction.natAbs) :
    ((predicted - observed).natAbs : ℤ) ≤ clockSyncJumpTicks ∧
      ((predicted + max (-clockMaxCorrectionTicks) (min clockMaxCorrectionTicks correction) -
        observed).natAbs : ℤ) ≤ clockSyncJumpTicks := by
  unfold clockSyncJumpTicks clockMaxCorrectionTicks at *
  constructor
  all_goals omega

section

variable (h : clock.Bounded)

include h

lemma bounded_correctAudio (rtpTimestamp : UInt32) (ntpTimestamp : UInt64) :
    (clock.correctAudio rtpTimestamp ntpTimestamp).2.Bounded := by
  unfold correctAudio
  dsimp only
  split
  · exact bounded_of_dropped rfl rfl
  rename_i hjump
  obtain ⟨hwhole, hslewed⟩ := natAbs_adjust_le rfl hjump
  split
  · exact ⟨hslewed, h.audio⟩
  · exact ⟨hwhole, h.audio⟩

lemma bounded_updateAudioSync (rtpTimestamp : UInt32)
    (ntpTimestamp : UInt64) : (clock.updateAudioSync rtpTimestamp ntpTimestamp).2.Bounded := by
  have hanchor : (clock.anchorAudioOnly ntpTimestamp).Bounded := by
    unfold anchorAudioOnly
    split
    · exact h.of_same rfl rfl rfl
    · exact h
  unfold updateAudioSync
  split
  · exact h
  dsimp only
  split
  · exact (bounded_correctAudio hanchor rtpTimestamp ntpTimestamp).of_same rfl rfl rfl
  · exact hanchor.of_same rfl rfl rfl

lemma bounded_mapAudio (rtpTimestamp : UInt32) : (clock.mapAudio rtpTimestamp).2.2.Bounded := by
  unfold mapAudio
  split
  · exact h
  split
  · exact h
  dsimp only
  split
  · exact h
  rename_i hwithin
  rw [not_or, not_lt] at hwithin
  refine ⟨h.adjust, fun _ => ?_⟩
  split_ifs with hraised
  · exact Int.le_add_one (h.audio hraised.1)
  · exact hwithin.1

lemma bounded_setAudioRate (sampleRate : UInt32) : (clock.setAudioRate sampleRate).2.Bounded := by
  unfold setAudioRate
  split
  · exact h
  dsimp only
  split
  · exact (bounded_resetAudioMapping clock).of_same rfl rfl rfl
  · exact h.of_same rfl rfl rfl

lemma bounded_setVideoTimeline (timeline : AirPlayMirrorVideoTimeline) :
    (clock.setVideoTimeline timeline).Bounded := by
  unfold setVideoTimeline
  split
  · exact (bounded_resetAudioMapping clock).of_same rfl rfl rfl
  · exact h.of_same rfl rfl rfl

lemma bounded_clockCallStep (call : ClockCall) : (clockCallStep clock call).Bounded := by
  cases call with
  | reset => exact bounded_fresh clock.sampleRate clock.audioOnly
  | op op =>
    cases op with
    | mapVideo ntpTimestamp => exact bounded_mapVideo h ntpTimestamp
    | mapAudio rtpTimestamp => exact bounded_mapAudio h rtpTimestamp
    | updateAudioSync rtpTimestamp ntpTimestamp =>
      exact bounded_updateAudioSync h rtpTimestamp ntpTimestamp
    | setAudioRate sampleRate => exact bounded_setAudioRate h sampleRate
    | setAudioOnly audioOnly => exact h.of_same rfl rfl rfl
    | setVideoTimeline timeline => exact bounded_setVideoTimeline h timeline

end

lemma ClockReachable.bounded (h : ClockReachable clock) : clock.Bounded :=
  h.invariant (bounded_fresh 0 false) fun _ call hbounded _ => bounded_clockCallStep hbounded call

end Bounded

/-! ## The slew of the audio mapping -/

section Slew

/-- The remainder of truncated division is small and has the sign of the dividend. -/
lemma tmod_bounds (a : ℤ) {b : ℤ} (hb : 0 < b) :
    (a.tmod b).natAbs < b ∧ (0 ≤ a → 0 ≤ a.tmod b) ∧ (a ≤ 0 → a.tmod b ≤ 0) := by
  have hsmall := Int.natAbs_tmod a b
  have hless := Nat.mod_lt a.natAbs (Int.natAbs_pos.mpr hb.ne')
  refine ⟨by omega, Int.tmod_nonneg b, fun ha => ?_⟩
  have hneg := Int.tmod_nonneg b (Int.neg_nonneg_of_nonpos ha)
  rw [Int.neg_tmod] at hneg
  omega

lemma natAbs_tdiv_add_le (x y : ℤ) {b : ℤ} (hb : 0 < b) :
    (x.tdiv b + y.tdiv b - (x + y).tdiv b).natAbs ≤ 1 := by
  obtain ⟨hx, hx', hx''⟩ := tmod_bounds x hb
  obtain ⟨hy, hy', hy''⟩ := tmod_bounds y hb
  obtain ⟨hsum, hsum', hsum''⟩ := tmod_bounds (x + y) hb
  have hmul : b * (x.tdiv b + y.tdiv b - (x + y).tdiv b) =
      (x + y).tmod b - x.tmod b - y.tmod b := by
    rw [mul_sub, mul_add]
    have := Int.mul_tdiv_add_tmod x b
    have := Int.mul_tdiv_add_tmod y b
    have := Int.mul_tdiv_add_tmod (x + y) b
    omega
  -- the three remainders together are less than twice the divisor
  have hsmall : ((x + y).tmod b - x.tmod b - y.tmod b).natAbs < 2 * b := by omega
  rw [← hmul, Int.natAbs_mul] at hsmall
  generalize (x.tdiv b + y.tdiv b - (x + y).tdiv b).natAbs = quotients at hsmall ⊢
  by_contra hlarge
  have htwo : b.natAbs * 2 ≤ b.natAbs * quotients := Nat.mul_le_mul_left _ (by omega)
  omega

/-- A signed difference is the difference modulo `2 ^ 32`. -/
lemma rtpDelta_spec (a b : UInt32) :
    (rtpDelta a b - ((a.toNat : ℤ) - b.toNat)) % 2 ^ 32 = 0 ∧
      -2 ^ 31 ≤ rtpDelta a b ∧ rtpDelta a b < 2 ^ 31 := by
  have hbounds := And.intro a.toNat_lt b.toNat_lt
  have hsub : (a - b).toBitVec.toNat = (2 ^ 32 - b.toNat + a.toNat) % 2 ^ 32 := UInt32.toNat_sub a b
  unfold rtpDelta
  rw [BitVec.toInt_eq_toNat_cond, hsub]
  split
  all_goals omega

/-- The timestamp, at its signed distance from the new anchor, lies in the signed 32-bit window of
the old one too. -/
def WithinWindows (rtpTimestamp old new : UInt32) : Prop :=
  -2 ^ 31 ≤ rtpDelta rtpTimestamp new + rtpDelta new old ∧
    rtpDelta rtpTimestamp new + rtpDelta new old < 2 ^ 31

lemma WithinWindows.rtpDelta_eq {rtpTimestamp old new : UInt32}
    (h : WithinWindows rtpTimestamp old new) :
    rtpDelta rtpTimestamp old = rtpDelta rtpTimestamp new + rtpDelta new old := by
  obtain ⟨hlow, hhigh⟩ := h
  obtain ⟨hwrap, hlow', hhigh'⟩ := rtpDelta_spec rtpTimestamp old
  have hnew := (rtpDelta_spec rtpTimestamp new).1
  have hold := (rtpDelta_spec new old).1
  omega

/-- The mapping of the clock, where it has one. -/
def AirPlayMirrorClock.audioMapping (clock : AirPlayMirrorClock) (rtpTimestamp : UInt32) :
    Option ℤ :=
  if clock.sampleRate = 0 ∨ clock.videoReady = false ∨ clock.audioSyncReady = false then none
  else some (clock.mapAudioRtp rtpTimestamp)

variable {clock : AirPlayMirrorClock} {rtpTimestamp : UInt32} {ntpTimestamp : UInt64}

lemma audioMapping_eq_some {pts : ℤ} : clock.audioMapping rtpTimestamp = some pts ↔
    clock.sampleRate ≠ 0 ∧ clock.videoReady = true ∧ clock.audioSyncReady = true ∧
      clock.mapAudioRtp rtpTimestamp = pts := by
  unfold audioMapping
  split_ifs with hnone
  · simp only [reduceCtorEq, false_iff]
    rintro ⟨hrate, hvideo, hsync, -⟩
    simp [hrate, hvideo, hsync] at hnone
  · simp only [not_or, Bool.not_eq_false] at hnone
    simp [hnone]

/-- What a sync that is no jump leaves of the adjustment: a correction of one step at most. -/
lemma correctAudio_adjust (h : (clock.correctAudio rtpTimestamp ntpTimestamp).1 ≠ .discontinuity) :
    ∃ applied : ℤ, applied.natAbs ≤ clockMaxCorrectionTicks ∧
      (clock.correctAudio rtpTimestamp ntpTimestamp).2 =
        { clock with audioAdjustTicks :=
            clock.mapAudioRtp rtpTimestamp + applied - clock.mapVideoNtp ntpTimestamp } := by
  unfold correctAudio at h ⊢
  dsimp only at h ⊢
  split at h
  · exact absurd rfl h
  rename_i hjump
  rw [if_neg hjump]
  split
  · refine ⟨_, ?_, rfl⟩
    unfold clockMaxCorrectionTicks
    omega
  · exact ⟨0, by decide, by rw [add_zero]⟩

lemma updateAudioSync_of_ready (href : ¬ (clock.sampleRate = 0 ∨ ntpTimestamp = 0))
    (hvideo : clock.videoReady = true) (hsync : clock.audioSyncReady = true) :
    clock.updateAudioSync rtpTimestamp ntpTimestamp =
      ((clock.correctAudio rtpTimestamp ntpTimestamp).1,
        { (clock.correctAudio rtpTimestamp ntpTimestamp).2 with
          audioSyncRtp := rtpTimestamp
          audioSyncNtp := ntpTimestamp
          audioSyncReady := true }) := by
  unfold updateAudioSync
  rw [if_neg href, anchorAudioOnly_of_ready ntpTimestamp hvideo]
  simp only [hvideo, hsync, Bool.and_self, if_true]

/-- Where a mapping puts a timestamp that was anchored again one correction away from the mapping
before it. -/
lemma natAbs_mapAudioRtp_sub_le {after : AirPlayMirrorClock} {applied : ℤ} {other : UInt32}
    (hrate : clock.sampleRate ≠ 0) (hsame : after.sampleRate = clock.sampleRate)
    (hadjust : after.audioAdjustTicks = clock.mapAudioRtp after.audioSyncRtp + applied - after.mapVideoNtp after.audioSyncNtp)
    (happ : applied.natAbs ≤ clockMaxCorrectionTicks)
    (hother : WithinWindows other clock.audioSyncRtp after.audioSyncRtp) :
    ((after.mapAudioRtp other - clock.mapAudioRtp other).natAbs : ℤ) ≤
      clockMaxCorrectionTicks + 1 := by
  have hpos : (0 : ℤ) < clock.sampleRate.toNat := by
    have hne : clock.sampleRate.toNat ≠ 0 := fun hzero => hrate (UInt32.toNat_inj.mp hzero)
    omega
  have hround := natAbs_tdiv_add_le (rtpDelta other after.audioSyncRtp * clockTimeBase)
    (rtpDelta after.audioSyncRtp clock.audioSyncRtp * clockTimeBase) hpos
  rw [← add_mul, ← hother.rtpDelta_eq] at hround
  unfold mapAudioRtp at hadjust ⊢
  rw [hadjust, hsame]
  omega

end Slew

/-- **The slew of audio.**  In every reachable clock the accumulated adjustment is at most a sync
jump, and a sync that is no discontinuity moves the mapping of every timestamp that lies in the
signed windows of both anchors by at most one correction and one tick of rounding. -/
theorem audioSlew_bounded {clock : AirPlayMirrorClock} (hclock : ClockReachable clock) :
    (clock.audioAdjustTicks.natAbs : ℤ) ≤ clockSyncJumpTicks ∧
    ∀ rtpTimestamp ntpTimestamp,
      (clock.updateAudioSync rtpTimestamp ntpTimestamp).1 ≠ .discontinuity →
      ∀ other, WithinWindows other clock.audioSyncRtp rtpTimestamp →
      ∀ before after, clock.audioMapping other = some before →
        (clock.updateAudioSync rtpTimestamp ntpTimestamp).2.audioMapping other = some after →
        ((after - before).natAbs : ℤ) ≤ clockMaxCorrectionTicks + 1 := by
  refine ⟨hclock.bounded.adjust, fun rtpTimestamp ntpTimestamp hresult other hother before after
    hbefore hafter => ?_⟩
  obtain ⟨hrate, hvideo, hsync, rfl⟩ := audioMapping_eq_some.mp hbefore
  obtain ⟨-, -, -, rfl⟩ := audioMapping_eq_some.mp hafter
  by_cases hrefused : clock.sampleRate = 0 ∨ ntpTimestamp = 0
  · unfold updateAudioSync
    rw [if_pos hrefused]
    simp [clockMaxCorrectionTicks]
  rw [updateAudioSync_of_ready hrefused hvideo hsync] at hresult ⊢
  obtain ⟨applied, happlied, heq⟩ := correctAudio_adjust hresult
  rw [heq]
  exact natAbs_mapAudioRtp_sub_le hrate rfl rfl happlied hother

/-- A sync that finds audio 703 ticks late. -/
def lateSyncOps : List ClockCall :=
  [.op (.setAudioRate 44100), .op (.mapVideo 0x6400000000), .op (.updateAudioSync 0 0x6500000000)]

theorem audioSlew_bounded_late :
    let clock := Runs.run clockCallStep (.fresh 0 false) lateSyncOps
    clock.audioMapping 88200 = some 270000 ∧
      (clock.updateAudioSync 44100 0x6602000000).2.audioMapping 88200 = some 270450 ∧
      ((270450 - 270000 : ℤ).natAbs : ℤ) ≤ clockMaxCorrectionTicks + 1 := by
  have hbefore : (Runs.run clockCallStep (.fresh 0 false) lateSyncOps).audioMapping 88200 =
      some 270000 := by decide +kernel
  have hafter : ((Runs.run clockCallStep (.fresh 0 false) lateSyncOps).updateAudioSync 44100
      0x6602000000).2.audioMapping 88200 = some 270450 := by decide +kernel
  refine ⟨hbefore, hafter, ?_⟩
  exact (audioSlew_bounded (Runs.Reachable.start.run lateSyncOps)).2 44100 0x6602000000
    (by decide +kernel) 88200 (by unfold WithinWindows; decide +kernel) 270000 270450 hbefore hafter

/-! ## The PTS of audio -/

section AudioPts

variable {clock : AirPlayMirrorClock} {rtpTimestamp : UInt32}

/-- What `map_audio` is to return with `OK`: a PTS that is not negative and lies within the skew
limit of the last video PTS. -/
def AirPlayMirrorClock.AudioPtsBounded (rtpTimestamp : UInt32) (clock : AirPlayMirrorClock) :
    Prop :=
  ∀ pts after, clock.mapAudio rtpTimestamp = (.ok, some pts, after) →
    0 ≤ pts ∧ (pts - after.lastVideoPts).natAbs ≤ clockMaxSkewTicks

/-- The packet belongs where the last audio PTS is, or before it, and within the limits; and the
last audio PTS has itself come as far as the skew limit allows. -/
def AirPlayMirrorClock.AudioAtLimit (rtpTimestamp : UInt32) (clock : AirPlayMirrorClock) : Prop :=
  clock.sampleRate ≠ 0 ∧ clock.videoReady = true ∧ clock.audioSyncReady = true ∧
    clock.audioReady = true ∧ 0 ≤ clock.mapAudioRtp rtpTimestamp ∧
    (clock.mapAudioRtp rtpTimestamp - clock.lastVideoPts).natAbs ≤ clockMaxSkewTicks ∧
    clock.mapAudioRtp rtpTimestamp ≤ clock.lastAudioPts ∧
    clock.lastVideoPts + clockMaxSkewTicks ≤ clock.lastAudioPts

/-- What `map_audio` returns with `OK`: the mapped value where it passes the check, raised above
the last audio PTS. -/
lemma mapAudio_eq_ok {pts : ℤ} {after : AirPlayMirrorClock} :
    clock.mapAudio rtpTimestamp = (.ok, some pts, after) ↔
      clock.sampleRate ≠ 0 ∧ clock.videoReady = true ∧ clock.audioSyncReady = true ∧
        0 ≤ clock.mapAudioRtp rtpTimestamp ∧
        (clock.mapAudioRtp rtpTimestamp - clock.lastVideoPts).natAbs ≤ clockMaxSkewTicks ∧
        (if clock.audioReady = true ∧ clock.mapAudioRtp rtpTimestamp ≤ clock.lastAudioPts then
          clock.lastAudioPts + 1 else clock.mapAudioRtp rtpTimestamp) = pts ∧
        { clock with lastAudioPts := pts, audioReady := true } = after := by
  unfold mapAudio
  by_cases hrate : clock.sampleRate = 0
  · simp [hrate]
  by_cases hwait : (!clock.videoReady || !clock.audioSyncReady) = true
  · rw [if_neg hrate, if_pos hwait]
    constructor
    · nofun
    · rintro ⟨-, hvideo, hsync, -⟩
      simp [hvideo, hsync] at hwait
  rw [if_neg hrate, if_neg hwait]
  simp only [Bool.or_eq_true, Bool.not_eq_true', not_or, Bool.not_eq_false] at hwait
  obtain ⟨hvideo, hsync⟩ := hwait
  by_cases href : clock.mapAudioRtp rtpTimestamp < 0 ∨ (clock.videoReady = true ∧
      clockMaxSkewTicks < (clock.mapAudioRtp rtpTimestamp - clock.lastVideoPts).natAbs)
  · rw [if_pos href]
    constructor
    · nofun
    rintro ⟨-, -, -, hlow, hskew, -⟩
    rcases href with h | ⟨-, h⟩
    · exact absurd hlow h.not_ge
    · exact absurd hskew h.not_ge
  rw [if_neg href]
  rw [not_or, not_and, not_lt, not_lt] at href
  obtain ⟨hlow, hskew⟩ := href
  constructor
  · intro h
    simp only [Prod.mk.injEq, Option.some.injEq, true_and] at h
    obtain ⟨hpts, hafter⟩ := h
    rw [hpts] at hafter
    exact ⟨hrate, hvideo, hsync, hlow, hskew hvideo, hpts, hafter⟩
  · rintro ⟨-, -, -, -, -, rfl, rfl⟩
    rfl

/-- The check bounds the mapped value; raising it leaves the bounds exactly at the limit. -/
lemma audioPtsBounded_iff (h : clock.Bounded) :
    clock.AudioPtsBounded rtpTimestamp ↔ ¬ clock.AudioAtLimit rtpTimestamp := by
  constructor
  · rintro hbounded ⟨hrate, hvideo, hsync, hready, hlow, hskew, hraised, hlimit⟩
    have hpts := hbounded _ _ (mapAudio_eq_ok.mpr
      ⟨hrate, hvideo, hsync, hlow, hskew, if_pos ⟨hready, hraised⟩, rfl⟩)
    have habove : ((clock.lastAudioPts + 1 - clock.lastVideoPts).natAbs : ℤ) ≤ clockMaxSkewTicks :=
      hpts.2
    omega
  intro hlimit pts after hmapped
  obtain ⟨hrate, hvideo, hsync, hlow, hskew, rfl, rfl⟩ := mapAudio_eq_ok.mp hmapped
  dsimp only
  split_ifs with hraised
  · have hbelow : clock.lastAudioPts < clock.lastVideoPts + clockMaxSkewTicks := by
      by_contra hreached
      exact hlimit ⟨hrate, hvideo, hsync, hraised.1, hlow, hskew, hraised.2, by omega⟩
    omega
  · exact ⟨hlow, hskew⟩

end AudioPts

/-- The call is no `map_audio`, or its PTS are bounded. -/
def ClockCall.PtsBounded : ClockCall → Prop
  | .op (.mapAudio rtpTimestamp) => clock.AudioPtsBounded rtpTimestamp
  | _ => True

/-- The call is no `map_audio` that finds the last audio PTS at the limit. -/
def ClockCall.BelowLimit : ClockCall → Prop
  | .op (.mapAudio rtpTimestamp) => ¬ clock.AudioAtLimit rtpTimestamp
  | _ => True

/-- Video stands still while the sender repeats a packet two seconds ahead of it: the first PTS is
at the limit, the second one tick past it. -/
def limitOps : List ClockCall :=
  [.op (.setAudioRate 44100), .op (.mapVideo 0x6400000000), .op (.updateAudioSync 0 0x6600000000),
    .op (.mapAudio 0)]

/-- The second PTS leaves the skew limit. -/
theorem audioPts_past_limit :
    let clock := Runs.run clockCallStep (.fresh 0 false) limitOps
    ClockReachable clock ∧ (clock.mapAudio 0).1 = .ok ∧ (clock.mapAudio 0).2.1 = some 180001 ∧
      clock.lastVideoPts = 0 ∧ ¬ clock.AudioPtsBounded 0 := by
  refine ⟨Runs.Reachable.start.run limitOps, by decide +kernel, by decide +kernel, by decide +kernel,
    fun hbounded => ?_⟩
  have hpast := hbounded 180001
    ((Runs.run clockCallStep (.fresh 0 false) limitOps).mapAudio 0).2.2 (by decide +kernel)
  revert hpast
  decide +kernel

/-- **The bounds of audio PTS.**  In every reachable clock and for every RTP timestamp, a PTS that
`map_audio` returns with `OK` is not negative and within the skew limit of the last video PTS,
exactly if it is not the case that the mapping puts the timestamp within the limits but not above
the last audio PTS and the last audio PTS has reached the limit.  In a run without such a packet
every PTS is within the bounds. -/
theorem audioPts_bounds (rtpTimestamp : UInt32) :
    (∀ clock, ClockReachable clock →
      (clock.AudioPtsBounded rtpTimestamp ↔ ¬ clock.AudioAtLimit rtpTimestamp)) ∧
    ∀ calls, Runs.Along clockCallStep ClockCall.BelowLimit (.fresh 0 false) calls →
      Runs.Along clockCallStep ClockCall.PtsBounded (.fresh 0 false) calls := by
  have hiff : ∀ rtpTimestamp clock, ClockReachable clock →
      (clock.AudioPtsBounded rtpTimestamp ↔ ¬ clock.AudioAtLimit rtpTimestamp) :=
    fun rtpTimestamp clock hclock => audioPtsBounded_iff hclock.bounded
  refine ⟨hiff rtpTimestamp, fun calls hcalls => ?_⟩
  refine Runs.Along.of_reachable hcalls .start fun clock hclock call hbelow => ?_
  unfold ClockCall.PtsBounded
  split
  · exact (hiff _ clock hclock).mpr hbelow
  · trivial

/-- The run up to the limit. -/
theorem audioPts_bounds_limit :
    Runs.Along clockCallStep ClockCall.PtsBounded (.fresh 0 false) limitOps := by
  refine (audioPts_bounds 0).2 limitOps ⟨trivial, trivial, trivial, ?_, trivial⟩
  show ¬ AudioAtLimit 0 _
  unfold AudioAtLimit
  decide +kernel

end NXCast
