import NXCast.Mirror.Clock

/-!
# The two timelines

`map_video` never returns a PTS twice nor goes back (`videoPts_increasing`): past the first
timestamp every branch of it ends above the last PTS.  `map_audio` keeps above its last PTS
only while `audio_ready` is set, and a jump of the sender clears that flag: its PTS can go
back (`audioPts_back`), and do not while the flag is kept (`audioPts_increasing`).
-/

namespace NXCast

open AirPlayMirrorClock List

/-! ## Timelines

Both timelines are guarded in one way: a flag says that there is a last PTS, and while it is
set the PTS that are returned lie above it. -/

section Rising

/-- One operation on a timeline that is given by its flag, its last PTS and its outputs. -/
structure RisingStep (ready : AirPlayMirrorClock → Bool) (last : AirPlayMirrorClock → ℤ)
    (pts? : ClockOutput → Option ℤ) (clock after : AirPlayMirrorClock) (output : ClockOutput) :
    Prop where
  kept : ready clock = true → ready after = true ∧ last clock ≤ last after
  above : ∀ pts, pts? output = some pts → ready after = true ∧ pts = last after ∧
    (ready clock = true → last clock < pts)

/-- Every operation of a run is as `Step` says. -/
def EveryStep (Step : AirPlayMirrorClock → AirPlayMirrorClock → ClockOutput → Prop) :
    List ClockOp → AirPlayMirrorClock → Prop
  | [], _ => True
  | op :: ops, clock =>
    Step clock (clockStep op clock).2 (clockStep op clock).1 ∧
      EveryStep Step ops (clockStep op clock).2

variable {ready : AirPlayMirrorClock → Bool} {last : AirPlayMirrorClock → ℤ}
  {pts? : ClockOutput → Option ℤ}

lemma risingStep_of_same {clock after : AirPlayMirrorClock} {output : ClockOutput}
    (hready : ready after = ready clock) (hlast : last after = last clock)
    (hout : pts? output = none) : RisingStep ready last pts? clock after output where
  kept h := ⟨hready.trans h, hlast.ge⟩
  above pts hpts := by
    rw [hout] at hpts
    cases hpts

lemma clockRun_rising {ops : List ClockOp} {clock : AirPlayMirrorClock}
    (h : EveryStep (RisingStep ready last pts?) ops clock) :
    ((clockRun ops clock).1.filterMap pts?).Pairwise (· < ·) ∧
      (ready clock → ∀ pts ∈ (clockRun ops clock).1.filterMap pts?, last clock < pts) := by
  induction ops generalizing clock with
  | nil => exact ⟨List.Pairwise.nil, fun _ _ h => by cases h⟩
  | cons op ops ih =>
    obtain ⟨hstep, hrest⟩ := h
    obtain ⟨hrising, habove⟩ := ih hrest
    have hlater : ready clock →
        ∀ pts ∈ (clockRun ops (clockStep op clock).2).1.filterMap pts?, last clock < pts := by
      intro hready pts hmem
      obtain ⟨hready', hle⟩ := hstep.kept hready
      exact hle.trans_lt (habove hready' pts hmem)
    rw [show (clockRun (op :: ops) clock).1 =
      (clockStep op clock).1 :: (clockRun ops (clockStep op clock).2).1 from rfl]
    cases hout : pts? (clockStep op clock).1 with
    | none =>
      rw [filterMap_cons_none hout]
      exact ⟨hrising, hlater⟩
    | some pts =>
      obtain ⟨hready', hlast, hless⟩ := hstep.above pts hout
      rw [filterMap_cons_some hout]
      refine ⟨pairwise_cons.mpr ⟨fun later hmem => ?_, hrising⟩, fun hready later hmem => ?_⟩
      · rw [hlast]
        exact habove hready' later hmem
      · rcases mem_cons.mp hmem with rfl | hmem
        · exact hless hready
        · exact hlater hready later hmem

end Rising

/-! ## Video -/

section Video

variable {clock : AirPlayMirrorClock} {op : ClockOp}

/-- The video timeline is the same. -/
structure SameVideo (clock after : AirPlayMirrorClock) : Prop where
  ready : after.videoReady = clock.videoReady
  anchorNtp : after.videoAnchorNtp = clock.videoAnchorNtp
  anchorPts : after.videoAnchorPts = clock.videoAnchorPts
  lastNtp : after.lastVideoNtp = clock.lastVideoNtp
  lastPts : after.lastVideoPts = clock.lastVideoPts

lemma SameVideo.refl (clock : AirPlayMirrorClock) : SameVideo clock clock := ⟨rfl, rfl, rfl, rfl, rfl⟩

lemma sameVideo_mapAudio (clock : AirPlayMirrorClock) (rtpTimestamp : UInt32) :
    SameVideo clock (clock.mapAudio rtpTimestamp).2.2 := by
  unfold mapAudio
  split
  · exact SameVideo.refl clock
  split
  · exact SameVideo.refl clock
  dsimp only
  split
  · exact SameVideo.refl clock
  · exact ⟨rfl, rfl, rfl, rfl, rfl⟩

lemma sameVideo_correctAudio (clock : AirPlayMirrorClock) (rtpTimestamp : UInt32)
    (ntpTimestamp : UInt64) : SameVideo clock (clock.correctAudio rtpTimestamp ntpTimestamp).2 := by
  unfold correctAudio
  dsimp only
  split
  · exact ⟨rfl, rfl, rfl, rfl, rfl⟩
  · split
    all_goals exact ⟨rfl, rfl, rfl, rfl, rfl⟩

lemma sameVideo_updateAudioSync (clock : AirPlayMirrorClock) (rtpTimestamp : UInt32)
    (ntpTimestamp : UInt64) :
    SameVideo clock (clock.updateAudioSync rtpTimestamp ntpTimestamp).2 ∨
      SameVideo (clock.anchorAudioOnly ntpTimestamp)
        (clock.updateAudioSync rtpTimestamp ntpTimestamp).2 := by
  unfold updateAudioSync
  split
  · exact .inl (SameVideo.refl clock)
  dsimp only
  split
  · obtain ⟨hready, hanchorNtp, hanchorPts, hlastNtp, hlastPts⟩ :=
      sameVideo_correctAudio (clock.anchorAudioOnly ntpTimestamp) rtpTimestamp ntpTimestamp
    exact .inr ⟨hready, hanchorNtp, hanchorPts, hlastNtp, hlastPts⟩
  · exact .inr ⟨rfl, rfl, rfl, rfl, rfl⟩

lemma sameVideo_setAudioRate (clock : AirPlayMirrorClock) (sampleRate : UInt32) :
    SameVideo clock (clock.setAudioRate sampleRate).2 := by
  unfold setAudioRate
  split
  · exact SameVideo.refl clock
  dsimp only
  split
  all_goals exact ⟨rfl, rfl, rfl, rfl, rfl⟩

/-- What one operation does to the video timeline. -/
abbrev VideoStep := RisingStep (·.videoReady) (·.lastVideoPts) (·.videoPts?)

lemma SameVideo.videoStep {after : AirPlayMirrorClock} (h : SameVideo clock after)
    {output : ClockOutput} (hout : output.videoPts? = none) : VideoStep clock after output :=
  risingStep_of_same h.ready h.lastPts hout

lemma videoStep_mapVideo (ntpTimestamp : UInt64) :
    VideoStep clock (clock.mapVideo ntpTimestamp).2.2
      (clockStep (.mapVideo ntpTimestamp) clock).1 := by
  simp only [clockStep]
  unfold mapVideo
  by_cases hzero : ntpTimestamp = 0
  · rw [if_pos hzero]
    exact (SameVideo.refl clock).videoStep rfl
  rw [if_neg hzero]
  by_cases hfresh : clock.videoReady = false
  · rw [if_pos hfresh]
    refine ⟨fun h => ?_, fun pts h => ?_⟩
    · rw [hfresh] at h
      cases h
    cases h
    refine ⟨rfl, rfl, fun hready => ?_⟩
    rw [hfresh] at hready
    cases hready
  rw [if_neg hfresh]
  have hready : clock.videoReady := eq_true_of_ne_false hfresh
  by_cases hjump : clock.videoJumps ntpTimestamp = true
  · rw [if_pos hjump]
    have habove : clock.lastVideoPts < clock.lastVideoPts + 1 := by omega
    refine ⟨fun _ => ⟨hready, habove.le⟩, fun pts h => ?_⟩
    cases h
    exact ⟨hready, rfl, fun _ => habove⟩
  rw [if_neg hjump]
  have habove : clock.lastVideoPts <
      if clock.mapVideoNtp ntpTimestamp ≤ clock.lastVideoPts then clock.lastVideoPts + 1
      else clock.mapVideoNtp ntpTimestamp := by
    split
    all_goals omega
  refine ⟨fun _ => ⟨hready, habove.le⟩, fun pts h => ?_⟩
  cases h
  exact ⟨hready, rfl, fun _ => habove⟩

lemma videoStep_mapAudio (rtpTimestamp : UInt32) :
    VideoStep clock (clock.mapAudio rtpTimestamp).2.2
      (clockStep (.mapAudio rtpTimestamp) clock).1 := by
  refine (sameVideo_mapAudio clock rtpTimestamp).videoStep ?_
  simp only [clockStep]
  cases (clock.mapAudio rtpTimestamp).2.1 with
  | none | some => rfl

lemma anchorAudioOnly_of_ready (ntpTimestamp : UInt64) (h : clock.videoReady) :
    clock.anchorAudioOnly ntpTimestamp = clock := by
  rw [anchorAudioOnly, if_neg]
  simp [h]

lemma videoStep_updateAudioSync (rtpTimestamp : UInt32) (ntpTimestamp : UInt64) :
    VideoStep clock (clock.updateAudioSync rtpTimestamp ntpTimestamp).2 .none := by
  rcases sameVideo_updateAudioSync clock rtpTimestamp ntpTimestamp with hsame | hsame
  · exact hsame.videoStep rfl
  refine ⟨fun hready => ?_, fun pts h => by cases h⟩
  rw [anchorAudioOnly_of_ready ntpTimestamp hready] at hsame
  exact ⟨hsame.ready.trans hready, hsame.lastPts.ge⟩

lemma videoStep_clockStep (clock : AirPlayMirrorClock)
    (hop : ∀ timeline, op ≠ .setVideoTimeline timeline) :
    VideoStep clock (clockStep op clock).2 (clockStep op clock).1 := by
  cases op with
  | mapVideo ntpTimestamp => exact videoStep_mapVideo ntpTimestamp
  | mapAudio rtpTimestamp => exact videoStep_mapAudio rtpTimestamp
  | updateAudioSync rtpTimestamp ntpTimestamp =>
    exact videoStep_updateAudioSync rtpTimestamp ntpTimestamp
  | setAudioRate sampleRate => exact (sameVideo_setAudioRate clock sampleRate).videoStep rfl
  | setAudioOnly audioOnly =>
    have hsame : SameVideo clock (clock.setAudioOnly audioOnly) := ⟨rfl, rfl, rfl, rfl, rfl⟩
    exact hsame.videoStep rfl
  | setVideoTimeline timeline => exact absurd rfl (hop timeline)

lemma everyStep_video {ops : List ClockOp}
    (hops : ∀ op ∈ ops, ∀ timeline, op ≠ .setVideoTimeline timeline) (clock : AirPlayMirrorClock) :
    EveryStep VideoStep ops clock := by
  induction ops generalizing clock with
  | nil => trivial
  | cons op ops ih =>
    rw [forall_mem_cons] at hops
    exact ⟨videoStep_clockStep clock hops.1, ih hops.2 _⟩

end Video

/-! ## How far the video timeline gets

The sender moves a continuing timeline by 10 seconds at most, so the mapped value stays within
what the anchor and the number of calls allow, also when the 64-bit difference to the anchor
wraps. -/

section Within

/-- A signed difference is the difference modulo `2 ^ 64`. -/
lemma ntpDelta_spec (a b : UInt64) :
    (ntpDelta a b - ((a.toNat : ℤ) - b.toNat)) % 2 ^ 64 = 0 ∧
      -2 ^ 63 ≤ ntpDelta a b ∧ ntpDelta a b < 2 ^ 63 := by
  have hbounds := And.intro a.toNat_lt b.toNat_lt
  have hsub : (a - b).toBitVec.toNat = (2 ^ 64 - b.toNat + a.toNat) % 2 ^ 64 := UInt64.toNat_sub a b
  unfold ntpDelta
  rw [BitVec.toInt_eq_toNat_cond, hsub]
  split
  all_goals omega

lemma ticksOfNtp_neg (delta : ℤ) : ticksOfNtp (-delta) = -ticksOfNtp delta := by
  unfold ticksOfNtp
  rw [Int.neg_tdiv, Int.neg_tmod, Int.neg_mul, Int.neg_mul, Int.neg_tdiv]
  omega

lemma ticksOfNtp_natCast (delta : ℕ) :
    ticksOfNtp delta = ((delta / 2 ^ 32 * 90000 + delta % 2 ^ 32 * 90000 / 2 ^ 32 : ℕ) : ℤ) := by
  unfold ticksOfNtp clockTimeBase
  rw [Int.tdiv_eq_ediv_of_nonneg (Int.natCast_nonneg delta),
    Int.tmod_eq_emod_of_nonneg (Int.natCast_nonneg delta), Int.tdiv_eq_ediv_of_nonneg (by omega)]
  omega

lemma ticksOfNtp_bounds (delta : ℕ) :
    ticksOfNtp delta * 2 ^ 32 ≤ delta * 90000 ∧ (delta : ℤ) * 90000 < (ticksOfNtp delta + 1) * 2 ^ 32 := by
  rw [ticksOfNtp_natCast]
  constructor
  all_goals omega

lemma natAbs_ntpDelta_le {clock : AirPlayMirrorClock} {ntpTimestamp : UInt64}
    (h : clock.videoJumps ntpTimestamp = false) :
    (ntpDelta ntpTimestamp clock.lastVideoNtp).natAbs ≤ 11 * 2 ^ 32 := by
  unfold videoJumps clockVideoBackwardTicks clockVideoForwardTicks at h
  rw [decide_eq_false_iff_not, not_or, not_lt, not_lt] at h
  unfold ntpDeltaTo90k at h
  generalize ntpDelta ntpTimestamp clock.lastVideoNtp = delta at h ⊢
  have hbounds := ticksOfNtp_bounds delta.natAbs
  rcases Int.natAbs_eq delta with hpos | hneg
  · rw [← hpos] at hbounds
    omega
  · rw [hneg, ticksOfNtp_neg] at h
    omega

lemma ticksOfNtp_le {delta whole : ℤ} (hwrap : (delta - whole) % 2 ^ 64 = 0)
    (hlow : -2 ^ 63 ≤ delta) (hhigh : delta < 2 ^ 63) {since : ℕ}
    (hwhole : whole.natAbs ≤ since * (11 * 2 ^ 32)) : ticksOfNtp delta ≤ 990000 * since := by
  have habs : delta.natAbs ≤ since * (11 * 2 ^ 32) := by omega
  have hbounds := ticksOfNtp_bounds delta.natAbs
  rcases Int.natAbs_eq delta with hpos | hneg
  · rw [← hpos] at hbounds
    omega
  · rw [hneg, ticksOfNtp_neg]
    omega

/-- Where the video timeline is after a number of operations. -/
structure VideoWithin (calls : ℕ) (clock : AirPlayMirrorClock) : Prop where
  last : 0 ≤ clock.lastVideoPts ∧ clock.lastVideoPts ≤ 990001 * calls
  anchor : ∃ since : ℕ, ∃ whole : ℤ, since ≤ calls ∧ 0 ≤ clock.videoAnchorPts ∧
    clock.videoAnchorPts + 990001 * since ≤ 990001 * calls ∧
    whole.natAbs ≤ since * (11 * 2 ^ 32) ∧
    (whole - ((clock.lastVideoNtp.toNat : ℤ) - clock.videoAnchorNtp.toNat)) % 2 ^ 64 = 0

variable {clock : AirPlayMirrorClock} {calls : ℕ}

lemma videoWithin_of_anchor (hlast : clock.lastVideoPts = clock.videoAnchorPts)
    (hntp : clock.lastVideoNtp = clock.videoAnchorNtp) (hlow : 0 ≤ clock.videoAnchorPts)
    (hhigh : clock.videoAnchorPts ≤ 990001 * calls) : VideoWithin calls clock where
  last := by
    rw [hlast]
    exact ⟨hlow, hhigh⟩
  anchor := ⟨0, 0, Nat.zero_le _, hlow, by omega, by decide, by rw [hntp]; omega⟩

lemma VideoWithin.of_same {after : AirPlayMirrorClock} (h : VideoWithin calls clock)
    (hsame : SameVideo clock after) : VideoWithin (calls + 1) after := by
  obtain ⟨⟨hlow, hhigh⟩, since, whole, hsince, hanchorLow, hanchorHigh, hwhole, hwrap⟩ := h
  refine ⟨?_, since, whole, by omega, ?_, ?_, hwhole, ?_⟩
  · rw [hsame.lastPts]
    omega
  · rwa [hsame.anchorPts]
  · rw [hsame.anchorPts]
    omega
  · rwa [hsame.lastNtp, hsame.anchorNtp]

section

variable (h : clock.videoReady → VideoWithin calls clock)

include h

lemma videoWithin_mapVideo (ntpTimestamp : UInt64) (hready : (clock.mapVideo ntpTimestamp).2.2.videoReady) :
    VideoWithin (calls + 1) (clock.mapVideo ntpTimestamp).2.2 := by
  unfold mapVideo at hready ⊢
  by_cases hzero : ntpTimestamp = 0
  · rw [if_pos hzero] at hready ⊢
    exact (h hready).of_same (SameVideo.refl clock)
  rw [if_neg hzero]
  by_cases hfresh : clock.videoReady = false
  · rw [if_pos hfresh]
    exact videoWithin_of_anchor rfl rfl le_rfl (by show (0 : ℤ) ≤ _; omega)
  rw [if_neg hfresh]
  have hwithin := h (eq_true_of_ne_false hfresh)
  obtain ⟨⟨hlow, hhigh⟩, since, whole, hsince, hanchorLow, hanchorHigh, hwhole, hwrap⟩ := hwithin
  by_cases hjump : clock.videoJumps ntpTimestamp = true
  · rw [if_pos hjump]
    refine videoWithin_of_anchor rfl rfl ?_ ?_
    · show 0 ≤ clock.lastVideoPts + 1
      omega
    · show clock.lastVideoPts + 1 ≤ _
      push_cast
      omega
  rw [if_neg hjump]
  -- the whole way from the anchor is one step longer
  have hstep := natAbs_ntpDelta_le (Bool.not_eq_true _ ▸ hjump)
  obtain ⟨hcong, -, -⟩ := ntpDelta_spec ntpTimestamp clock.lastVideoNtp
  obtain ⟨hcong', hmin, hmax⟩ := ntpDelta_spec ntpTimestamp clock.videoAnchorNtp
  have hwhole' : (whole + ntpDelta ntpTimestamp clock.lastVideoNtp).natAbs ≤
      (since + 1) * (11 * 2 ^ 32) := by omega
  have hmapped : clock.mapVideoNtp ntpTimestamp ≤
      clock.videoAnchorPts + 990000 * ((since + 1 : ℕ) : ℤ) := by
    have hcong'' : (ntpDelta ntpTimestamp clock.videoAnchorNtp -
        (whole + ntpDelta ntpTimestamp clock.lastVideoNtp)) % 2 ^ 64 = 0 := by omega
    have hticks := ticksOfNtp_le hcong'' hmin hmax hwhole'
    exact Int.add_le_add_left hticks _
  refine ⟨?_, since + 1, whole + ntpDelta ntpTimestamp clock.lastVideoNtp, by omega, hanchorLow,
    ?_, hwhole', ?_⟩
  · show 0 ≤ (if clock.mapVideoNtp ntpTimestamp ≤ clock.lastVideoPts then clock.lastVideoPts + 1
        else clock.mapVideoNtp ntpTimestamp) ∧
      (if clock.mapVideoNtp ntpTimestamp ≤ clock.lastVideoPts then clock.lastVideoPts + 1
        else clock.mapVideoNtp ntpTimestamp) ≤ _
    push_cast at hmapped ⊢
    split
    all_goals omega
  · show clock.videoAnchorPts + _ ≤ _
    push_cast
    omega
  · show (whole + ntpDelta ntpTimestamp clock.lastVideoNtp -
      ((ntpTimestamp.toNat : ℤ) - clock.videoAnchorNtp.toNat)) % 2 ^ 64 = 0
    omega

lemma videoWithin_anchorAudioOnly (ntpTimestamp : UInt64) (hready : (clock.anchorAudioOnly ntpTimestamp).videoReady) :
    VideoWithin calls (clock.anchorAudioOnly ntpTimestamp) := by
  unfold anchorAudioOnly at hready ⊢
  split_ifs with hkept
  · exact videoWithin_of_anchor rfl rfl le_rfl (by show (0 : ℤ) ≤ _; omega)
  · rw [if_neg hkept] at hready
    exact h hready

lemma videoWithin_clockStep {op : ClockOp} (hop : ∀ timeline, op ≠ .setVideoTimeline timeline)
    (hready : (clockStep op clock).2.videoReady) :
    VideoWithin (calls + 1) (clockStep op clock).2 := by
  have hkept : ∀ after, SameVideo clock after → after.videoReady →
      VideoWithin (calls + 1) after :=
    fun after hsame hready => (h (hsame.ready ▸ hready)).of_same hsame
  cases op with
  | mapVideo ntpTimestamp => exact videoWithin_mapVideo h ntpTimestamp hready
  | mapAudio rtpTimestamp => exact hkept _ (sameVideo_mapAudio clock rtpTimestamp) hready
  | updateAudioSync rtpTimestamp ntpTimestamp =>
    rcases sameVideo_updateAudioSync clock rtpTimestamp ntpTimestamp with hsame | hsame
    · exact hkept _ hsame hready
    · refine (videoWithin_anchorAudioOnly h ntpTimestamp ?_).of_same hsame
      exact hsame.ready ▸ hready
  | setAudioRate sampleRate => exact hkept _ (sameVideo_setAudioRate clock sampleRate) hready
  | setAudioOnly audioOnly => exact hkept _ ⟨rfl, rfl, rfl, rfl, rfl⟩ hready
  | setVideoTimeline timeline => exact absurd rfl (hop timeline)

end

lemma clockRun_within (ops : List ClockOp)
    (hops : ∀ op ∈ ops, ∀ timeline, op ≠ .setVideoTimeline timeline)
    (h : clock.videoReady → VideoWithin calls clock) :
    ∀ pts ∈ (clockRun ops clock).1.filterMap (·.videoPts?),
      0 ≤ pts ∧ pts ≤ 990001 * ((calls + ops.length : ℕ) : ℤ) := by
  induction ops generalizing clock calls with
  | nil => exact fun _ hmem => by cases hmem
  | cons op ops ih =>
    rw [forall_mem_cons] at hops
    have hwithin := videoWithin_clockStep h hops.1
    have hlater := ih hops.2 hwithin
    rw [length_cons, show (clockRun (op :: ops) clock).1 =
      (clockStep op clock).1 :: (clockRun ops (clockStep op clock).2).1 from rfl]
    cases hout : (clockStep op clock).1.videoPts? with
    | none =>
      rw [filterMap_cons_none hout]
      intro pts hmem
      have hpts := hlater pts hmem
      push_cast at hpts ⊢
      omega
    | some first =>
      rw [filterMap_cons_some hout]
      intro pts hmem
      rcases mem_cons.mp hmem with rfl | hmem
      · obtain ⟨hready, hlast, -⟩ := (videoStep_clockStep clock hops.1).above pts hout
        have hbound := (hwithin hready).last
        push_cast at hbound ⊢
        omega
      · have hpts := hlater pts hmem
        push_cast at hpts ⊢
        omega

end Within

/-- The PTS that `map_video` returns with `OK`. -/
def ClockOutput.okVideoPts? : ClockOutput → Option ℤ
  | .video .ok pts => some pts
  | _ => Option.none

lemma filterMap_okVideoPts_sublist (outputs : List ClockOutput) :
    (outputs.filterMap (·.okVideoPts?)).Sublist (outputs.filterMap (·.videoPts?)) := by
  induction outputs with
  | nil => exact List.Sublist.slnil
  | cons output outputs ih =>
    cases output with
    | none | audio => exact ih
    | video result pts =>
      cases result with
      | ok => exact ih.cons_cons pts
      | waitingForSync | discontinuity | outOfRange => exact ih.cons pts

/-- **The video timeline.**  In every run between two resets, whatever the timestamps, the PTS
that `map_video` returns rise strictly: those returned with `OK`, and also those returned at a
discontinuity between them.  Ticks stay within 64 bits in every run of less than
9 000 000 000 000 operations. -/
theorem videoPts_increasing (sampleRate : UInt32) (audioOnly : Bool) (ops : List ClockOp)
    (hops : ∀ op ∈ ops, ∀ timeline, op ≠ .setVideoTimeline timeline) :
    let outputs := (clockRun ops (.fresh sampleRate audioOnly)).1
    (outputs.filterMap (·.okVideoPts?)).Pairwise (· < ·) ∧
      (outputs.filterMap (·.videoPts?)).Pairwise (· < ·) ∧
      (ops.length < 9000000000000 →
        ∀ pts ∈ outputs.filterMap (·.videoPts?), 0 ≤ pts ∧ pts < 2 ^ 63) := by
  obtain ⟨hrising, -⟩ := clockRun_rising (everyStep_video hops (.fresh sampleRate audioOnly))
  refine ⟨hrising.sublist (filterMap_okVideoPts_sublist _), hrising, fun hlength pts hmem => ?_⟩
  have hfresh : (AirPlayMirrorClock.fresh sampleRate audioOnly).videoReady = true →
      VideoWithin 0 (.fresh sampleRate audioOnly) := fun h => by cases h
  obtain ⟨hlow, hhigh⟩ := clockRun_within ops hops hfresh pts hmem
  push_cast at hhigh
  omega

/-- A backward jump is a discontinuity, a small step back is clamped, and the second count of
the sender wraps. -/
def videoOps : List ClockOp :=
  [.mapVideo 0xffffffffc0000000, .mapVideo 0x0000000040000000, .mapVideo 0x000000003fffffff,
    .mapVideo 0x8000000000000000, .mapVideo 0x8000000100000000]

theorem videoPts_increasing_wrap :
    ((clockRun videoOps (.fresh 44100 false)).1.filterMap (·.okVideoPts?)) =
        [0, 45000, 45001, 135002] ∧
      ((clockRun videoOps (.fresh 44100 false)).1.filterMap (·.okVideoPts?)).Pairwise (· < ·) := by
  refine ⟨by decide +kernel, ?_⟩
  exact (videoPts_increasing 44100 false videoOps
    (by
      intro op hmem timeline heq
      subst heq
      simp [videoOps] at hmem)).1

/-! ## Audio

`audio_ready` guards the last audio PTS: while it is set, `map_audio` stays above it.  Four
operations clear it, and the PTS after that may lie anywhere. -/

namespace AirPlayMirrorClock

/-- The operation clears `audio_ready`: the video timeline jumps or is replaced by another one,
the sync jumps, or the sample rate changes. -/
def dropsAudioGuard (op : ClockOp) (clock : AirPlayMirrorClock) : Bool :=
  match op with
  | .mapVideo ntpTimestamp =>
    decide (ntpTimestamp ≠ 0) && clock.videoReady && clock.videoJumps ntpTimestamp
  | .mapAudio _ | .setAudioOnly _ => false
  | .updateAudioSync rtpTimestamp ntpTimestamp =>
    decide (clock.sampleRate ≠ 0 ∧ ntpTimestamp ≠ 0) && clock.audioSyncReady &&
      (clock.anchorAudioOnly ntpTimestamp).videoReady &&
      decide (clockSyncJumpTicks <
        ((clock.anchorAudioOnly ntpTimestamp).syncCorrection rtpTimestamp ntpTimestamp).natAbs)
  | .setAudioRate sampleRate =>
    decide (8000 ≤ sampleRate ∧ sampleRate ≤ 192000 ∧ clock.sampleRate ≠ 0 ∧
      clock.sampleRate ≠ sampleRate)
  | .setVideoTimeline timeline =>
    clock.videoReady && decide (clock.videoAnchorNtp ≠ timeline.anchorNtp ∨
      clock.videoAnchorPts ≠ timeline.anchorPts)

end AirPlayMirrorClock

section Audio

variable {clock : AirPlayMirrorClock} {op : ClockOp}

/-- What one operation does to the audio timeline. -/
abbrev AudioTimelineStep := RisingStep (·.audioReady) (·.lastAudioPts) (·.audioPts?)

/-- The guard of the audio timeline is the same. -/
structure SameAudio (clock after : AirPlayMirrorClock) : Prop where
  ready : after.audioReady = clock.audioReady
  lastPts : after.lastAudioPts = clock.lastAudioPts

lemma audioStep_mapAudio (clock : AirPlayMirrorClock) (rtpTimestamp : UInt32) :
    AudioTimelineStep clock (clock.mapAudio rtpTimestamp).2.2
      (clockStep (.mapAudio rtpTimestamp) clock).1 := by
  have hnothing : AudioTimelineStep clock clock .none := risingStep_of_same rfl rfl rfl
  simp only [clockStep]
  unfold mapAudio
  by_cases hrate : clock.sampleRate = 0
  · rw [if_pos hrate]
    exact hnothing
  rw [if_neg hrate]
  by_cases hwait : (!clock.videoReady || !clock.audioSyncReady) = true
  · rw [if_pos hwait]
    exact hnothing
  rw [if_neg hwait]
  dsimp only
  split
  · exact hnothing
  have habove : clock.audioReady → clock.lastAudioPts <
      if clock.audioReady ∧ clock.mapAudioRtp rtpTimestamp ≤ clock.lastAudioPts then
        clock.lastAudioPts + 1
      else clock.mapAudioRtp rtpTimestamp := by
    intro hready
    split_ifs with hmapped
    · omega
    · rw [not_and, not_le] at hmapped
      exact hmapped hready
  refine ⟨fun hready => ⟨rfl, (habove hready).le⟩, fun pts h => ?_⟩
  cases h
  exact ⟨rfl, rfl, habove⟩

lemma sameAudio_mapVideo {ntpTimestamp : UInt64}
    (h : clock.dropsAudioGuard (.mapVideo ntpTimestamp) = false) :
    SameAudio clock (clock.mapVideo ntpTimestamp).2.2 := by
  unfold mapVideo
  by_cases hzero : ntpTimestamp = 0
  · rw [if_pos hzero]
    exact ⟨rfl, rfl⟩
  rw [if_neg hzero]
  by_cases hfresh : clock.videoReady = false
  · rw [if_pos hfresh]
    exact ⟨rfl, rfl⟩
  rw [if_neg hfresh]
  by_cases hjump : clock.videoJumps ntpTimestamp = true
  · -- the guard would be dropped
    simp [dropsAudioGuard, hzero, eq_true_of_ne_false hfresh, hjump] at h
  · rw [if_neg hjump]
    exact ⟨rfl, rfl⟩

lemma sameAudio_updateAudioSync {rtpTimestamp : UInt32} {ntpTimestamp : UInt64}
    (h : clock.dropsAudioGuard (.updateAudioSync rtpTimestamp ntpTimestamp) = false) :
    SameAudio clock (clock.updateAudioSync rtpTimestamp ntpTimestamp).2 := by
  have hanchor : SameAudio clock (clock.anchorAudioOnly ntpTimestamp) ∧
      (clock.anchorAudioOnly ntpTimestamp).audioSyncReady = clock.audioSyncReady := by
    unfold anchorAudioOnly
    split
    all_goals exact ⟨⟨rfl, rfl⟩, rfl⟩
  obtain ⟨⟨hready, hlast⟩, hsync⟩ := hanchor
  unfold updateAudioSync
  by_cases href : clock.sampleRate = 0 ∨ ntpTimestamp = 0
  · rw [if_pos href]
    exact ⟨rfl, rfl⟩
  rw [if_neg href]
  dsimp only
  split_ifs with hmapped
  · rw [Bool.and_eq_true] at hmapped
    unfold correctAudio
    dsimp only
    split
    · rename_i hjump
      rw [not_or] at href
      refine absurd hjump ?_
      simpa [dropsAudioGuard, href.1, href.2, hsync ▸ hmapped.1, hmapped.2] using h
    · split
      all_goals exact ⟨hready, hlast⟩
  · exact ⟨hready, hlast⟩

lemma sameAudio_setAudioRate {sampleRate : UInt32}
    (h : clock.dropsAudioGuard (.setAudioRate sampleRate) = false) :
    SameAudio clock (clock.setAudioRate sampleRate).2 := by
  unfold setAudioRate
  split
  · exact ⟨rfl, rfl⟩
  rename_i hvalid
  rw [not_or, UInt32.not_lt, UInt32.not_lt] at hvalid
  split_ifs with hchanged
  · simp [dropsAudioGuard, hvalid.1, hvalid.2, hchanged.1, hchanged.2] at h
  · exact ⟨rfl, rfl⟩

lemma sameAudio_setVideoTimeline {timeline : AirPlayMirrorVideoTimeline}
    (h : clock.dropsAudioGuard (.setVideoTimeline timeline) = false) :
    SameAudio clock (clock.setVideoTimeline timeline) := by
  unfold setVideoTimeline
  split_ifs with hother
  · simp [dropsAudioGuard, hother.1, hother.2] at h
  · exact ⟨rfl, rfl⟩

/-- Only `map_audio` returns an audio PTS. -/
lemma audioPts_eq_none (clock : AirPlayMirrorClock) (hop : ∀ rtpTimestamp, op ≠ .mapAudio rtpTimestamp) :
    (clockStep op clock).1.audioPts? = none := by
  cases op with
  | mapVideo ntpTimestamp =>
    simp only [clockStep]
    cases (clock.mapVideo ntpTimestamp).2.1 with
    | none | some => rfl
  | mapAudio rtpTimestamp => exact absurd rfl (hop rtpTimestamp)
  | _ => rfl

/-- An operation other than `map_audio` leaves the guard, or clears it. -/
lemma sameAudio_clockStep (hop : ∀ rtpTimestamp, op ≠ .mapAudio rtpTimestamp)
    (h : clock.dropsAudioGuard op = false) : SameAudio clock (clockStep op clock).2 := by
  cases op with
  | mapVideo ntpTimestamp => exact sameAudio_mapVideo h
  | mapAudio rtpTimestamp => exact absurd rfl (hop rtpTimestamp)
  | updateAudioSync rtpTimestamp ntpTimestamp => exact sameAudio_updateAudioSync h
  | setAudioRate sampleRate => exact sameAudio_setAudioRate h
  | setAudioOnly audioOnly => exact ⟨rfl, rfl⟩
  | setVideoTimeline timeline => exact sameAudio_setVideoTimeline h

lemma audioStep_clockStep (h : clock.audioReady → clock.dropsAudioGuard op = false) :
    AudioTimelineStep clock (clockStep op clock).2 (clockStep op clock).1 := by
  by_cases hop : ∃ rtpTimestamp, op = .mapAudio rtpTimestamp
  · obtain ⟨rtpTimestamp, rfl⟩ := hop
    exact audioStep_mapAudio clock rtpTimestamp
  rw [not_exists] at hop
  have hnone := audioPts_eq_none clock hop
  refine ⟨fun hready => ?_, fun pts hpts => ?_⟩
  · obtain ⟨hkept, hlast⟩ := sameAudio_clockStep hop (h hready)
    exact ⟨hkept.trans hready, hlast.ge⟩
  · rw [hnone] at hpts
    cases hpts

end Audio

/-- Every operation of a run that finds the guard set leaves it. -/
def KeepsAudioGuard : List ClockOp → AirPlayMirrorClock → Prop
  | [], _ => True
  | op :: ops, clock =>
    (clock.audioReady = true → clock.dropsAudioGuard op = false) ∧
      KeepsAudioGuard ops (clockStep op clock).2

lemma everyStep_audio {ops : List ClockOp} {clock : AirPlayMirrorClock}
    (h : KeepsAudioGuard ops clock) : EveryStep AudioTimelineStep ops clock := by
  induction ops generalizing clock with
  | nil => trivial
  | cons op ops ih => exact ⟨audioStep_clockStep h.1, ih h.2⟩

/-- A sync that jumps back by half a second, between two packets of one RTP timestamp. -/
def audioOps : List ClockOp :=
  [.setAudioRate 44100, .mapVideo 0x6400000000, .updateAudioSync 0 0x6500000000, .mapAudio 0,
    .updateAudioSync 0 0x6480000000, .mapAudio 0]

/-- The audio timeline goes back. -/
theorem audioPts_back :
    (clockRun audioOps (.fresh 0 false)).1.filterMap (·.audioPts?) = [90000, 45000] ∧
      ¬ ((clockRun audioOps (.fresh 0 false)).1.filterMap (·.audioPts?)).Pairwise (· < ·) := by
  constructor
  all_goals decide +kernel

/-- **The audio timeline.**  In every run, whatever the timestamps, in which no operation clears
`audio_ready` once it is set, the PTS that `map_audio` returns rise strictly. -/
theorem audioPts_increasing (sampleRate : UInt32) (audioOnly : Bool) (ops : List ClockOp)
    (hguard : KeepsAudioGuard ops (.fresh sampleRate audioOnly)) :
    ((clockRun ops (.fresh sampleRate audioOnly)).1.filterMap (·.audioPts?)).Pairwise (· < ·) :=
  (clockRun_rising (everyStep_audio hguard)).1

/-- Two syncs that do not jump. -/
def steadyAudioOps : List ClockOp :=
  [.setAudioRate 44100, .mapVideo 0x6400000000, .updateAudioSync 0 0x6500000000, .mapAudio 0,
    .updateAudioSync 44100 0x6600100000, .mapAudio 0]

theorem audioPts_increasing_steady :
    (clockRun steadyAudioOps (.fresh 0 false)).1.filterMap (·.audioPts?) = [90000, 90001] ∧
      ((clockRun steadyAudioOps (.fresh 0 false)).1.filterMap (·.audioPts?)).Pairwise (· < ·) := by
  refine ⟨by decide +kernel, audioPts_increasing 0 false steadyAudioOps ?_⟩
  simp only [KeepsAudioGuard, steadyAudioOps, and_true]
  decide +kernel

end NXCast
