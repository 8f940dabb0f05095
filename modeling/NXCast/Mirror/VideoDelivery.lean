import NXCast.Framework.Trace
import NXCast.Mirror.Video

/-!
# Delivery of mirror video

What the two parsers read: a configuration that is accepted describes parameter sets, and an
access unit is a sequence of NAL units; both come out in Annex B form.

Beside the state a run keeps what has been delivered and what came in between.  Three properties
go over the run: a delivery with nothing delivered since the last restart is a keyframe, the
configuration that is held is the last one announced, and no delivery is older than one since the
last reset.
-/

namespace NXCast

open Option hiding or_assoc

open Trace List BigEndian AirPlayMirrorVideo

/-! ## The parsers -/

lemma take_lengthPrefixed {width : ℕ} {input : List UInt8} (hwidth : width ≤ input.length)
    (hfit : value (input.take width) ≤ (input.drop width).length) :
    input = encode width
        ((input.drop width).take (value (input.take width))).length ++
      (input.drop width).take (value (input.take width)) ++
      (input.drop width).drop (value (input.take width)) := by
  have hlen : (input.take width).length = width := length_take_of_le hwidth
  have hencode := encode_value (input.take width)
  rw [hlen] at hencode
  rw [length_take_of_le hfit, hencode, append_assoc, take_append_drop,
    take_append_drop]

lemma headD_take {bytes : List UInt8} {size : ℕ} (hsize : size ≠ 0) :
    (bytes.take size).headD 0 = bytes.headD 0 := by
  obtain ⟨size, rfl⟩ := Nat.exists_eq_succ_of_ne_zero hsize
  cases bytes <;> rfl

lemma take_ne_nil {bytes : List UInt8} {size : ℕ} (hsize : size ≠ 0) (hfit : size ≤ bytes.length) :
    bytes.take size ≠ [] := by
  rw [ne_eq, ← length_eq_zero_iff, length_take_of_le hfit]
  exact hsize

lemma appendNal_some {output nal output' : List UInt8} (h : appendNal output nal = some output') :
    output' = output ++ nalStartCode ++ nal := by
  rw [appendNal] at h
  split_ifs at h
  exact (some.inj h).symm

/-- A loop over parameter sets reads as many NAL units of its type and writes them out. -/
lemma parseParameterSetsOf_some {nalType : UInt8} {count : ℕ} {input output : List UInt8}
    {result : List UInt8 × List UInt8}
    (h : parseParameterSetsOf nalType count input output = some result) :
    ∃ nals : List (List UInt8), nals.length = count ∧ (∀ nal ∈ nals, NalOfType nalType nal) ∧
      input = lengthPrefixed 2 nals ++ result.1 ∧ result.2 = output ++ annexB nals := by
  induction count generalizing input output with
  | zero =>
    obtain rfl := some.inj h
    exact ⟨[], rfl, nofun, rfl, (append_nil _).symm⟩
  | succ count ih =>
    rw [parseParameterSetsOf] at h
    dsimp only at h
    split_ifs at h with hlen hbad
    obtain ⟨output', happend, hrest⟩ := bind_eq_some_iff.mp h
    obtain ⟨nals, hcount, htypes, hinput, hout⟩ := ih hrest
    simp only [not_or, Nat.not_lt, not_not] at hlen hbad
    obtain ⟨hpos, hfit, htype⟩ := hbad
    have hcons := take_lengthPrefixed hlen hfit
    refine ⟨(input.drop 2).take (value (input.take 2)) :: nals, ?_, ?_, ?_, ?_⟩
    · rw [length_cons, hcount]
    · intro nal hnal
      obtain rfl | hnal := mem_cons.mp hnal
      · exact ⟨take_ne_nil hpos hfit, (congrArg (· &&& 0x1F) (headD_take hpos)).trans htype⟩
      · exact htypes nal hnal
    · rw [lengthPrefixed_cons, append_assoc, ← hinput]
      exact hcons
    · rw [hout, appendNal_some happend, annexB_cons]
      simp only [append_assoc]

/-- **What a configuration describes** is what comes out of it, in Annex B form. -/
theorem parseParameterSets_some {avcc parsed : List UInt8}
    (h : parseParameterSets avcc = some parsed) :
    ∃ sps pps, DescribesParameterSets avcc sps pps ∧ parsed = annexB (sps ++ pps) := by
  rw [parseParameterSets] at h
  dsimp only at h
  split_ifs at h with hhead hcount
  simp only [not_or, Nat.not_lt, not_not] at hhead
  obtain ⟨hlen, hversion, hlengths⟩ := hhead
  obtain ⟨⟨input, output⟩, hsps, h⟩ := bind_eq_some_iff.mp h
  obtain ⟨sps, hspsCount, hspsTypes, hspsInput, hspsOutput⟩ := parseParameterSetsOf_some hsps
  dsimp only at h hspsInput hspsOutput
  cases input with
  | nil => cases h
  | cons ppsCount rest =>
    dsimp only at h
    split_ifs at h with hpps
    obtain ⟨⟨trailing, parsed'⟩, hpps', hparsed⟩ := map_eq_some_iff.mp h
    obtain ⟨pps, hppsCount, hppsTypes, hppsInput, hppsOutput⟩ := parseParameterSetsOf_some hpps'
    match avcc, hlen with
    | b0 :: b1 :: b2 :: b3 :: b4 :: b5 :: tail, _ =>
      refine ⟨sps, pps, ⟨⟨b1, b2, b3, b4, b5, ppsCount, trailing, ?_, hlengths, hspsCount.symm,
        hppsCount.symm⟩, hspsTypes, hppsTypes, ?_, ?_⟩, ?_⟩
      · have hb0 : b0 = 1 := hversion
        have htail : tail = lengthPrefixed 2 sps ++ ppsCount :: rest := hspsInput
        rw [hb0, htail, hppsInput]
        simp
      · rintro rfl
        apply hcount
        apply UInt8.toNat_inj.mp
        exact hspsCount.symm
      · rintro rfl
        apply hpps
        apply UInt8.toNat_inj.mp
        exact hppsCount.symm
      · rw [← hparsed, hppsOutput, hspsOutput, annexB_append, nil_append]

lemma inspectAccessUnitFrom_some (input : List UInt8) (outputSize : ℕ) (keyframe : Bool)
    {result : ℕ × Bool} (h : inspectAccessUnitFrom input outputSize keyframe = some result) :
    ∃ nals : List (List UInt8), (∀ nal ∈ nals, nal ≠ []) ∧ input = lengthPrefixed 4 nals ∧
      writeAccessUnit input = annexB nals ∧
      (result.2 ↔ keyframe ∨ ∃ nal ∈ nals, NalOfType 5 nal) := by
  induction input, outputSize, keyframe using inspectAccessUnitFrom.induct with
  | case1 outputSize keyframe =>
    rw [inspectAccessUnitFrom, if_pos rfl] at h
    obtain rfl := some.inj h
    refine ⟨[], nofun, rfl, ?_, by simp⟩
    rw [writeAccessUnit, if_pos rfl]
    rfl
  | case2 input outputSize keyframe hempty hshort =>
    rw [inspectAccessUnitFrom, if_neg hempty, if_pos hshort] at h
    cases h
  | case3 input outputSize keyframe hempty hshort nalSize hbad =>
    rw [inspectAccessUnitFrom, if_neg hempty, if_neg hshort, if_pos hbad] at h
    cases h
  | case4 input outputSize keyframe hempty hshort nalSize hbad ih =>
    rw [inspectAccessUnitFrom, if_neg hempty, if_neg hshort, if_neg hbad] at h
    obtain ⟨nals, hnonempty, hinput, hwrite, hkeyframe⟩ := ih h
    simp only [not_or, Nat.not_lt] at hshort hbad
    obtain ⟨hpos, hfit, _, _⟩ := hbad
    have hcons := take_lengthPrefixed hshort hfit
    have hhead : ((input.drop 4).take (value (input.take 4))).headD 0 =
        (input.drop 4).headD 0 := headD_take hpos
    have hnal : (input.drop 4).take (value (input.take 4)) ≠ [] := take_ne_nil hpos hfit
    refine ⟨(input.drop 4).take (value (input.take 4)) :: nals, ?_, ?_, ?_, ?_⟩
    · exact forall_mem_cons.mpr ⟨hnal, hnonempty⟩
    · rw [lengthPrefixed_cons, ← hinput]
      exact hcons
    · rw [writeAccessUnit, if_neg hempty, hwrite, annexB_cons]
    · rw [hkeyframe, Bool.or_eq_true, decide_eq_true_eq, or_assoc]
      simp only [mem_cons, exists_eq_or_imp, NalOfType, hhead, hnal, ne_eq,
        not_false_eq_true, true_and]

/-- **What an access unit consists of** is what comes out of it. -/
theorem inspectAccessUnit_some {payload : List UInt8} {annexbSize : ℕ} {keyframe : Bool}
    (h : inspectAccessUnit payload = some (annexbSize, keyframe)) :
    ∃ nals, nals ≠ [] ∧ (∀ nal ∈ nals, nal ≠ []) ∧ payload = lengthPrefixed 4 nals ∧
      writeAccessUnit payload = annexB nals ∧
      (keyframe ↔ ∃ nal ∈ nals, NalOfType 5 nal) := by
  rw [inspectAccessUnit] at h
  split_ifs at h with hsize
  obtain ⟨nals, hnonempty, hinput, hwrite, hkeyframe⟩ := inspectAccessUnitFrom_some _ _ _ h
  refine ⟨nals, ?_, hnonempty, hinput, hwrite, by simpa using hkeyframe⟩
  rintro rfl
  exact hsize (.inl hinput)

/-! ## Runs -/

/-- A call of the module; an access unit comes with the answer of `malloc`. -/
inductive MirrorVideoCall where
  | reset
  | config (avcc : List UInt8) (timestamp : UInt64)
  | accessUnit (payload : List UInt8) (timestamp : UInt64) (allocated : Bool)

/-- What a call has done: a reset, a change of the configuration with its new generation, or a
delivery with the payload it was made of. -/
inductive MirrorVideoEvent where
  | reset
  | configured (generation : UInt32) (avcc : List UInt8)
  | delivered (payload : List UInt8) (accessUnit : AirPlayMirrorAccessUnit)

namespace MirrorVideoEvent

/-- After it the stream starts again with a keyframe. -/
def Restarts : MirrorVideoEvent → Prop
  | .reset | .configured _ _ => True
  | .delivered _ _ => False

def IsConfigured : MirrorVideoEvent → Prop
  | .configured _ _ => True
  | _ => False

def IsDelivered : MirrorVideoEvent → Prop
  | .delivered _ _ => True
  | _ => False

def IsReset : MirrorVideoEvent → Prop
  | .reset => True
  | _ => False

end MirrorVideoEvent

/-- The module with what its calls have done. -/
structure MirrorVideoRun where
  video : AirPlayMirrorVideo
  events : List MirrorVideoEvent

namespace MirrorVideoRun

/-- One call. -/
def step (run : MirrorVideoRun) : MirrorVideoCall → MirrorVideoRun
  | .reset => ⟨run.video.reset, run.events ++ [.reset]⟩
  | .config avcc timestamp =>
    let video := (run.video.processConfig avcc timestamp).2
    ⟨video, run.events ++
      if video.config ≠ run.video.config then [.configured video.configGeneration avcc] else []⟩
  | .accessUnit payload timestamp allocated =>
    let (_, delivered, video) := run.video.processAccessUnit payload timestamp allocated
    ⟨video, run.events ++ (delivered.map (.delivered payload)).toList⟩

/-- The calls of a run, from the module as it is created. -/
def ofCalls (calls : List MirrorVideoCall) : MirrorVideoRun := calls.foldl step ⟨.created, []⟩

end MirrorVideoRun

/-- What is to hold of a delivery, given what came before it. -/
structure DeliveredRightly (before : List MirrorVideoEvent) (payload : List UInt8)
    (accessUnit : AirPlayMirrorAccessUnit) : Prop where
  /-- With no delivery since the last restart it is a keyframe. -/
  restarted : ∀ restart : MirrorVideoEvent, restart.Restarts →
    Since before restart MirrorVideoEvent.IsDelivered → accessUnit.keyframe = true
  /-- It is tagged with the configuration in force; a keyframe starts with its parameter sets,
  and the NAL units of the payload follow. -/
  described : ∃ avcc sps pps nals,
    Since before (.configured accessUnit.configGeneration avcc) MirrorVideoEvent.IsConfigured ∧
    DescribesParameterSets avcc sps pps ∧ payload = lengthPrefixed 4 nals ∧
    (accessUnit.keyframe = true ↔ ∃ nal ∈ nals, NalOfType 5 nal) ∧
    accessUnit.data = (if accessUnit.keyframe then annexB (sps ++ pps) else []) ++ annexB nals
  /-- It is not older than a delivery since the last reset. -/
  ordered : ∀ payload' earlier,
    Since before (.delivered payload' earlier) MirrorVideoEvent.IsReset →
      earlier.timestamp ≤ accessUnit.timestamp

/-- A delivery is right; the other events say nothing. -/
def MirrorVideoEvent.Right (before : List MirrorVideoEvent) : MirrorVideoEvent → Prop
  | .delivered payload accessUnit => DeliveredRightly before payload accessUnit
  | _ => True

/-- What the state says of the events. -/
structure MirrorVideoRun.Sound (run : MirrorVideoRun) : Prop where
  right : Each MirrorVideoEvent.Right run.events
  waiting : run.video.waitingForKeyframe = false → ∀ restart : MirrorVideoEvent,
    restart.Restarts → ¬Since run.events restart MirrorVideoEvent.IsDelivered
  configured : run.video.config ≠ [] → ∃ avcc,
    Since run.events (.configured run.video.configGeneration avcc) MirrorVideoEvent.IsConfigured ∧
    parseParameterSets avcc = some run.video.config
  ordered : ∀ payload earlier,
    Since run.events (.delivered payload earlier) MirrorVideoEvent.IsReset →
      run.video.hasLastTimestamp = true ∧ earlier.timestamp ≤ run.video.lastTimestamp

namespace MirrorVideoRun

variable {run : MirrorVideoRun}

lemma Sound.created : Sound ⟨.created, []⟩ := by
  refine ⟨each_nil, nofun, absurd rfl, ?_⟩
  intro payload earlier hsince
  exact absurd hsince not_since_nil

lemma Sound.reset (h : run.Sound) : (run.step .reset).Sound := by
  refine ⟨each_concat.mpr ⟨h.right, trivial⟩, nofun, ?_, ?_⟩
  · intro hconfig
    obtain ⟨avcc, hsince, hparse⟩ := h.configured hconfig
    exact ⟨avcc, since_concat.mpr (.inr ⟨hsince, not_false⟩), hparse⟩
  · intro payload earlier hsince
    obtain hlast | ⟨_, hreset⟩ := since_concat.mp hsince
    · cases hlast
    · exact absurd trivial hreset

/-- What `airplay_mirror_video_process_config` can come to. -/
lemma processConfig_cases (video : AirPlayMirrorVideo) (avcc : List UInt8) (timestamp : UInt64) :
    video.processConfig avcc timestamp =
        (.invalid, { video with configFailures := video.configFailures + 1 }) ∨
      ∃ parsed, parseParameterSets avcc = some parsed ∧
        ((parsed = video.config ∧ video.processConfig avcc timestamp =
            (.ok, { video with
              configTimestamp := timestamp
              configOk := video.configOk + 1 })) ∨
          (parsed ≠ video.config ∧ video.processConfig avcc timestamp =
            (.ok, { video with
              config := parsed
              configGeneration := video.nextGeneration
              waitingForKeyframe := true
              configTimestamp := timestamp
              configOk := video.configOk + 1 }))) := by
  rw [processConfig]
  split_ifs with hsize
  · exact .inl rfl
  cases hparse : parseParameterSets avcc with
  | none => exact .inl rfl
  | some parsed =>
    refine .inr ⟨parsed, rfl, ?_⟩
    by_cases hsame : parsed = video.config
    · exact .inl ⟨hsame, by simp [hsame]⟩
    · exact .inr ⟨hsame, by simp [hsame]⟩

lemma Sound.config (h : run.Sound) (avcc : List UInt8) (timestamp : UInt64) :
    (run.step (.config avcc timestamp)).Sound := by
  rw [step]
  obtain hrun | ⟨parsed, hparse, ⟨_, hrun⟩ | ⟨hchanged, hrun⟩⟩ :=
    processConfig_cases run.video avcc timestamp
  · simp only [hrun, ne_eq, not_true_eq_false, if_false, append_nil]
    exact ⟨h.right, h.waiting, h.configured, h.ordered⟩
  · simp only [hrun, ne_eq, not_true_eq_false, if_false, append_nil]
    exact ⟨h.right, h.waiting, h.configured, h.ordered⟩
  simp only [hrun, ne_eq, hchanged, not_false_eq_true, if_true]
  refine ⟨each_concat.mpr ⟨h.right, trivial⟩, nofun, ?_, ?_⟩
  · exact fun _ => ⟨avcc, since_concat.mpr (.inl rfl), hparse⟩
  intro payload earlier hsince
  obtain hlast | ⟨hsince, _⟩ := since_concat.mp hsince
  · cases hlast
  · exact h.ordered payload earlier hsince

/-- What `airplay_mirror_video_process_access_unit` can come to. -/
lemma processAccessUnit_cases (video : AirPlayMirrorVideo) (payload : List UInt8)
    (timestamp : UInt64) (allocated : Bool) :
    (∃ result invalid dropped noMemory,
      video.processAccessUnit payload timestamp allocated = (result, none,
        { video with
          accessUnitsInvalid := invalid
          accessUnitsDropped := dropped
          accessUnitsNoMemory := noMemory })) ∨
      ∃ annexbSize keyframe accessUnits bytes keyframes,
        inspectAccessUnit payload = some (annexbSize, keyframe) ∧ video.config ≠ [] ∧
        (video.hasLastTimestamp → video.lastTimestamp ≤ timestamp) ∧
        (video.waitingForKeyframe → keyframe) ∧
        video.processAccessUnit payload timestamp allocated = (.ok,
          some
            { data := (if keyframe then video.config else []) ++ writeAccessUnit payload
              timestamp
              configGeneration := video.configGeneration
              keyframe },
          { video with
            waitingForKeyframe := false
            hasLastTimestamp := true
            lastTimestamp := timestamp
            accessUnitsOk := accessUnits
            accessUnitBytes := bytes
            keyframes := keyframes }) := by
  rw [processAccessUnit]
  cases hinsp : inspectAccessUnit payload with
  | none => exact .inl ⟨_, _, _, _, rfl⟩
  | some inspected =>
    obtain ⟨annexbSize, keyframe⟩ := inspected
    dsimp only
    generalize hsets : (if keyframe = true then video.config else []) = parameterSets
    generalize (if keyframe = true then video.keyframes + 1 else video.keyframes) = keyframes
    split_ifs with hdropped hsize halloc
    · exact .inl ⟨_, _, _, _, rfl⟩
    · exact .inl ⟨_, _, _, _, rfl⟩
    · exact .inl ⟨_, _, _, _, rfl⟩
    · simp only [not_or, not_and, UInt64.not_lt, not_not] at hdropped
      subst hsets
      exact .inr ⟨annexbSize, keyframe, _, _, _, rfl, hdropped.1, hdropped.2.1, hdropped.2.2, rfl⟩

lemma Sound.accessUnit (h : run.Sound) (payload : List UInt8) (timestamp : UInt64)
    (allocated : Bool) : (run.step (.accessUnit payload timestamp allocated)).Sound := by
  rw [step]
  obtain ⟨_, _, _, _, hrun⟩ | ⟨annexbSize, keyframe, _, _, _, hinsp, hconfig, htime, hwait,
    hrun⟩ := processAccessUnit_cases run.video payload timestamp allocated
  · simp only [hrun, map_none, toList_none, append_nil]
    exact ⟨h.right, h.waiting, h.configured, h.ordered⟩
  simp only [hrun, map_some, toList_some]
  have hright : DeliveredRightly run.events payload
      { data := (if keyframe then run.video.config else []) ++ writeAccessUnit payload
        timestamp
        configGeneration := run.video.configGeneration
        keyframe } := by
    refine ⟨?_, ?_, ?_⟩
    · intro restart hrestart hsince
      apply hwait
      by_contra hopen
      exact h.waiting (by simpa using hopen) restart hrestart hsince
    · obtain ⟨avcc, hsince, hparse⟩ := h.configured hconfig
      obtain ⟨sps, pps, hdesc, hsets⟩ := parseParameterSets_some hparse
      obtain ⟨nals, _, _, hpayload, hwrite, hkeyframe⟩ := inspectAccessUnit_some hinsp
      refine ⟨avcc, sps, pps, nals, hsince, hdesc, hpayload, hkeyframe, ?_⟩
      rw [hwrite, hsets]
    · intro payload' earlier hsince
      obtain ⟨hlast, hearlier⟩ := h.ordered payload' earlier hsince
      exact UInt64.le_trans hearlier (htime hlast)
  refine ⟨each_concat.mpr ⟨h.right, hright⟩, ?_, ?_, ?_⟩
  · intro _ restart hrestart hsince
    obtain rfl | ⟨_, hdelivered⟩ := since_concat.mp hsince
    · exact hrestart
    · exact hdelivered trivial
  · intro _
    obtain ⟨avcc, hsince, hparse⟩ := h.configured hconfig
    exact ⟨avcc, since_concat.mpr (.inr ⟨hsince, not_false⟩), hparse⟩
  intro payload' earlier hsince
  refine ⟨rfl, ?_⟩
  obtain hlast | ⟨hsince, _⟩ := since_concat.mp hsince
  · obtain ⟨_, rfl⟩ := MirrorVideoEvent.delivered.inj hlast
    exact UInt64.le_refl _
  · obtain ⟨hlast, hearlier⟩ := h.ordered payload' earlier hsince
    exact UInt64.le_trans hearlier (htime hlast)

/-- **Every run** is sound. -/
theorem Sound.ofCalls (calls : List MirrorVideoCall) : (ofCalls calls).Sound := by
  induction calls using reverseRecOn with
  | nil => exact Sound.created
  | append_singleton calls call ih =>
    rw [MirrorVideoRun.ofCalls, foldl_append]
    cases call with
    | reset => exact ih.reset
    | config avcc timestamp => exact ih.config avcc timestamp
    | accessUnit payload timestamp allocated => exact ih.accessUnit payload timestamp allocated

end MirrorVideoRun

/-- **Mirror video delivery.** In every run each delivery is right: with nothing delivered since
the last reset or change of the configuration it is a keyframe, a keyframe starts with the
parameter sets of the configuration it is tagged with, and no delivery is older than one since
the last reset.  A configuration that is rejected changes the count of failures and nothing
else. -/
theorem mirrorVideo_delivery (calls : List MirrorVideoCall) :
    Each MirrorVideoEvent.Right (MirrorVideoRun.ofCalls calls).events ∧
    ∀ avcc timestamp,
      ((MirrorVideoRun.ofCalls calls).video.processConfig avcc timestamp).1 ≠ .ok →
        ((MirrorVideoRun.ofCalls calls).video.processConfig avcc timestamp).2 =
          { (MirrorVideoRun.ofCalls calls).video with
            configFailures := (MirrorVideoRun.ofCalls calls).video.configFailures + 1 } := by
  refine ⟨(MirrorVideoRun.Sound.ofCalls calls).right, fun avcc timestamp hrejected => ?_⟩
  obtain hrun | ⟨_, _, ⟨_, hrun⟩ | ⟨_, hrun⟩⟩ :=
    MirrorVideoRun.processConfig_cases (MirrorVideoRun.ofCalls calls).video avcc timestamp
  · rw [hrun]
  all_goals exact absurd (congrArg Prod.fst hrun) hrejected

/-- A configuration that is rejected is counted. -/
theorem mirrorVideo_rejected_counted :
    (AirPlayMirrorVideo.created.processConfig [] 0).1 = .invalid ∧
      (AirPlayMirrorVideo.created.processConfig [] 0).2 ≠ AirPlayMirrorVideo.created := by
  decide

end NXCast
