import NXCast.Framework.BigEndian

/-!
# Mirror video

`mirror/video.c`: the codec configuration and the access units of a mirror stream, in AVCC form
on the way in and in Annex B form on the way out.  A buffer with its size is a list of bytes, a
place in the input is what is left of it, and the callback of a call is the access unit it
returns.  Whether `malloc` succeeds is an argument.
-/

namespace NXCast

/-- `AIRPLAY_MIRROR_VIDEO_MAX_CONFIG` -/
def mirrorVideoMaxConfig : ℕ := 64 * 1024

/-- `AIRPLAY_MIRROR_VIDEO_MAX_ACCESS_UNIT` -/
def mirrorVideoMaxAccessUnit : ℕ := 8 * 1024 * 1024

/-- `AirPlayMirrorVideoResult` -/
inductive AirPlayMirrorVideoResult where
  | ok
  | dropped
  | invalid
  | noMemory
deriving DecidableEq

/-- `AirPlayMirrorAccessUnit` -/
structure AirPlayMirrorAccessUnit where
  data : List UInt8
  timestamp : UInt64
  configGeneration : UInt32
  keyframe : Bool
deriving DecidableEq

/-- `AirPlayMirrorVideo` -/
structure AirPlayMirrorVideo where
  config : List UInt8
  configGeneration : UInt32
  configTimestamp : UInt64
  lastTimestamp : UInt64
  hasLastTimestamp : Bool
  waitingForKeyframe : Bool
  configOk : UInt64
  configFailures : UInt64
  accessUnitsOk : UInt64
  accessUnitsDropped : UInt64
  accessUnitsInvalid : UInt64
  accessUnitsNoMemory : UInt64
  accessUnitBytes : UInt64
  keyframes : UInt64
deriving DecidableEq

/-! ## Codec configuration -/

/-- `start_code` -/
def nalStartCode : List UInt8 := [0, 0, 0, 1]

/-- `append_nal` into the buffer for a configuration. -/
def appendNal (output nal : List UInt8) : Option (List UInt8) :=
  if nal = [] ∨ output.length > mirrorVideoMaxConfig ∨
      nal.length + 4 > mirrorVideoMaxConfig - output.length ∨ nal.headD 0 &&& 0x80 ≠ 0 then none
  else some (output ++ nalStartCode ++ nal)

/-- A loop of `parse_parameter_sets` over `count` parameter sets of one type: what is left of
the input, and the output. -/
def parseParameterSetsOf (nalType : UInt8) :
    ℕ → List UInt8 → List UInt8 → Option (List UInt8 × List UInt8)
  | 0, input, output => some (input, output)
  | count + 1, input, output =>
    if input.length < 2 then none
    else
      let nalSize := BigEndian.value (input.take 2)
      let input := input.drop 2
      if nalSize = 0 ∨ nalSize > input.length ∨ input.headD 0 &&& 0x1F ≠ nalType then none
      else
        (appendNal output (input.take nalSize)).bind fun output =>
          parseParameterSetsOf nalType count (input.drop nalSize) output

/-- `parse_parameter_sets` -/
def parseParameterSets (avcc : List UInt8) : Option (List UInt8) :=
  if avcc.length < 7 ∨ avcc.getD 0 0 ≠ 1 ∨ avcc.getD 4 0 &&& 0x03 ≠ 3 then none
  else
    let spsCount := avcc.getD 5 0 &&& 0x1F
    if spsCount = 0 then none
    else
      (parseParameterSetsOf 7 spsCount.toNat (avcc.drop 6) []).bind fun (input, output) =>
        match input with
        | [] => none
        | ppsCount :: input =>
          if ppsCount = 0 then none
          else (parseParameterSetsOf 8 ppsCount.toNat input output).map fun (_, output) => output

/-! ## Access units -/

/-- The loop of `inspect_access_unit`: the size of the output and whether there is a keyframe. -/
def inspectAccessUnitFrom (input : List UInt8) (outputSize : ℕ) (keyframe : Bool) :
    Option (ℕ × Bool) :=
  if input = [] then some (outputSize, keyframe)
  else if input.length < 4 then none
  else
    let nalSize := BigEndian.value (input.take 4)
    if nalSize = 0 ∨ nalSize > (input.drop 4).length ∨
        nalSize + 4 > mirrorVideoMaxAccessUnit - outputSize ∨
        (input.drop 4).headD 0 &&& 0x80 ≠ 0 then none
    else
      inspectAccessUnitFrom ((input.drop 4).drop nalSize) (outputSize + nalSize + 4)
        (keyframe || (input.drop 4).headD 0 &&& 0x1F = 5)
termination_by input.length
decreasing_by
  simp only [List.length_drop]
  omega

/-- `inspect_access_unit` -/
def inspectAccessUnit (payload : List UInt8) : Option (ℕ × Bool) :=
  if payload = [] ∨ payload.length > mirrorVideoMaxAccessUnit then none
  else inspectAccessUnitFrom payload 0 false

/-- `write_access_unit` -/
def writeAccessUnit (input : List UInt8) : List UInt8 :=
  if input = [] then []
  else
    nalStartCode ++ (input.drop 4).take (BigEndian.value (input.take 4)) ++
      writeAccessUnit ((input.drop 4).drop (BigEndian.value (input.take 4)))
termination_by input.length
decreasing_by
  rename_i hempty
  have hlength : input.length ≠ 0 := fun h => hempty (List.length_eq_zero_iff.mp h)
  simp only [List.length_drop]
  omega

namespace AirPlayMirrorVideo

/-- What `airplay_mirror_video_create` makes. -/
def created : AirPlayMirrorVideo where
  config := []
  configGeneration := 0
  configTimestamp := 0
  lastTimestamp := 0
  hasLastTimestamp := false
  waitingForKeyframe := true
  configOk := 0
  configFailures := 0
  accessUnitsOk := 0
  accessUnitsDropped := 0
  accessUnitsInvalid := 0
  accessUnitsNoMemory := 0
  accessUnitBytes := 0
  keyframes := 0

variable (video : AirPlayMirrorVideo)

/-- `airplay_mirror_video_reset` -/
def reset : AirPlayMirrorVideo :=
  { video with hasLastTimestamp := false, lastTimestamp := 0, waitingForKeyframe := true }

/-- The generation of the next configuration; 0 is left out. -/
def nextGeneration : UInt32 :=
  let generation := video.configGeneration + 1
  if generation = 0 then generation + 1 else generation

/-- `airplay_mirror_video_process_config` -/
def processConfig (avcc : List UInt8) (timestamp : UInt64) :
    AirPlayMirrorVideoResult × AirPlayMirrorVideo :=
  if avcc.length > mirrorVideoMaxConfig then
    (.invalid, { video with configFailures := video.configFailures + 1 })
  else
    match parseParameterSets avcc with
    | none => (.invalid, { video with configFailures := video.configFailures + 1 })
    | some parsed =>
      let changed : AirPlayMirrorVideo :=
        if parsed ≠ video.config then
          { video with
            config := parsed
            configGeneration := video.nextGeneration
            waitingForKeyframe := true }
        else video
      (.ok, { changed with configTimestamp := timestamp, configOk := video.configOk + 1 })

/-- `airplay_mirror_video_process_access_unit`, with the access unit the callback gets. -/
def processAccessUnit (payload : List UInt8) (timestamp : UInt64)
    (allocated : Bool) :
    AirPlayMirrorVideoResult × Option AirPlayMirrorAccessUnit × AirPlayMirrorVideo :=
  match inspectAccessUnit payload with
  | none =>
    (.invalid, none, { video with accessUnitsInvalid := video.accessUnitsInvalid + 1 })
  | some (annexbSize, keyframe) =>
    if video.config = [] ∨ (video.hasLastTimestamp ∧ timestamp < video.lastTimestamp) ∨
        (video.waitingForKeyframe ∧ ¬keyframe) then
      (.dropped, none, { video with accessUnitsDropped := video.accessUnitsDropped + 1 })
    else
      let parameterSets := if keyframe then video.config else []
      if annexbSize > mirrorVideoMaxAccessUnit - parameterSets.length then
        (.invalid, none, { video with accessUnitsInvalid := video.accessUnitsInvalid + 1 })
      else if !allocated then
        (.noMemory, none, { video with accessUnitsNoMemory := video.accessUnitsNoMemory + 1 })
      else
        let accessUnit : AirPlayMirrorAccessUnit :=
          { data := parameterSets ++ writeAccessUnit payload
            timestamp
            configGeneration := video.configGeneration
            keyframe }
        (.ok, some accessUnit,
          { video with
            waitingForKeyframe := false
            hasLastTimestamp := true
            lastTimestamp := timestamp
            accessUnitsOk := video.accessUnitsOk + 1
            accessUnitBytes := video.accessUnitBytes + UInt64.ofNat accessUnit.data.length
            keyframes := if keyframe then video.keyframes + 1 else video.keyframes })

end AirPlayMirrorVideo

/-! ## What the formats say

A configuration carries its parameter sets with 16-bit lengths, an access unit its NAL units
with 32-bit lengths; on the way out each is behind a start code. -/

/-- NAL units behind start codes. -/
def annexB (nals : List (List UInt8)) : List UInt8 := nals.flatMap (nalStartCode ++ ·)

/-- NAL units behind their lengths in `width` bytes. -/
def lengthPrefixed (width : ℕ) (nals : List (List UInt8)) : List UInt8 :=
  nals.flatMap fun nal => BigEndian.encode width nal.length ++ nal

/-- A NAL unit of a type. -/
def NalOfType (nalType : UInt8) (nal : List UInt8) : Prop :=
  nal ≠ [] ∧ nal.headD 0 &&& 0x1F = nalType

/-- An AVC decoder configuration with the given parameter sets; metadata may follow. -/
structure DescribesParameterSets (avcc : List UInt8) (sps pps : List (List UInt8)) : Prop where
  layout : ∃ profile compatibility level lengthByte spsByte ppsByte trailing,
    avcc = [1, profile, compatibility, level, lengthByte, spsByte] ++ lengthPrefixed 2 sps ++
      ppsByte :: (lengthPrefixed 2 pps ++ trailing) ∧
    lengthByte &&& 0x03 = 3 ∧ (spsByte &&& 0x1F).toNat = sps.length ∧ ppsByte.toNat = pps.length
  sps_type : ∀ nal ∈ sps, NalOfType 7 nal
  pps_type : ∀ nal ∈ pps, NalOfType 8 nal
  sps_pos : sps ≠ []
  pps_pos : pps ≠ []

section formats

@[simp] lemma annexB_cons (nal : List UInt8) (nals : List (List UInt8)) :
    annexB (nal :: nals) = nalStartCode ++ nal ++ annexB nals := by
  simp [annexB]

@[simp] lemma annexB_append (nals more : List (List UInt8)) :
    annexB (nals ++ more) = annexB nals ++ annexB more := by
  simp [annexB]

@[simp] lemma lengthPrefixed_cons (width : ℕ) (nal : List UInt8) (nals : List (List UInt8)) :
    lengthPrefixed width (nal :: nals) =
      BigEndian.encode width nal.length ++ nal ++ lengthPrefixed width nals := by
  simp [lengthPrefixed]

end formats

end NXCast
