import NXCast.Framework.Checked
import NXCast.Mirror.VideoDelivery

/-!
# Mirror video in its buffers

The parsers of `mirror/video.c` once more, now with their offsets into the payload, the sizes of
their buffers and the 64-bit arithmetic of both (`Framework/Checked`).  No access of theirs is a
fault, and they compute what `Video` says: `write_access_unit`, which checks nothing, walks the
lengths that `inspect_access_unit` has checked.
-/

namespace NXCast

open Checked List BigEndian Option

/-! ## Access units -/

/-- `read_be32` -/
def readBe32 (data : List UInt8) (place : ℕ) : Access ℕ := do
  let bytes ← loadBytes data place 4
  return BigEndian.value bytes

/-- The loop of `inspect_access_unit`, of so many turns at most. -/
def inspectLoop (payload : List UInt8) : ℕ → ℕ → ℕ → Bool → Access (ℕ × Bool)
  | 0, offset, outputSize, keyframe =>
    if offset < payload.length then .error .endless else pure (outputSize, keyframe)
  | turns + 1, offset, outputSize, keyframe =>
    if offset < payload.length then do
      let left ← sizeSub payload.length offset
      goOnIf (left ≥ 4)
      let nalSize ← readBe32 payload offset
      let offset ← sizeAdd offset 4
      goOnIf (nalSize ≠ 0)
      let left ← sizeSub payload.length offset
      goOnIf (nalSize ≤ left)
      let needed ← sizeAdd nalSize 4
      let room ← sizeSub mirrorVideoMaxAccessUnit outputSize
      goOnIf (needed ≤ room)
      let first ← loadByte payload offset
      goOnIf (first &&& 0x80 = 0)
      let outputSize ← sizeAdd outputSize needed
      let next ← sizeAdd offset nalSize
      inspectLoop payload turns next outputSize (keyframe || first &&& 0x1F = 5)
    else pure (outputSize, keyframe)

/-- `inspect_access_unit` in memory. -/
def inspectInMemory (payload : List UInt8) : Access (ℕ × Bool) := do
  goOnIf (payload.length ≠ 0 ∧ payload.length ≤ mirrorVideoMaxAccessUnit)
  inspectLoop payload payload.length 0 0 false

/-- The loop of `write_access_unit`, of so many turns at most. -/
def writeLoop (payload : List UInt8) : ℕ → ℕ → ℕ → List UInt8 → Access (List UInt8)
  | 0, inputOffset, _, output =>
    if inputOffset < payload.length then .error .endless else pure output
  | turns + 1, inputOffset, outputOffset, output =>
    if inputOffset < payload.length then do
      let nalSize ← readBe32 payload inputOffset
      let inputOffset ← sizeAdd inputOffset 4
      let output ← store output outputOffset nalStartCode
      let outputOffset ← sizeAdd outputOffset 4
      let nal ← loadBytes payload inputOffset nalSize
      let output ← store output outputOffset nal
      let outputOffset ← sizeAdd outputOffset nalSize
      let inputOffset ← sizeAdd inputOffset nalSize
      writeLoop payload turns inputOffset outputOffset output
    else pure output

/-- `write_access_unit` in memory, from a place of the output on. -/
def writeInMemory (payload : List UInt8) (place : ℕ) (output : List UInt8) : Access (List UInt8) :=
  writeLoop payload payload.length 0 place output

section AccessUnits

variable {payload : List UInt8}

/-- An answer of the list model, as a program. -/
def answerOf {α : Type} : Option α → Access α
  | none => .error .refused
  | some answer => .ok answer

lemma readBe32_eq {place : ℕ} (h : place + 4 ≤ payload.length) :
    readBe32 payload place = .ok (value ((payload.drop place).take 4)) := by
  rw [readBe32, loadBytes_eq h]
  rfl

lemma value_take_four_lt (bytes : List UInt8) : value (bytes.take 4) < 2 ^ 32 := by
  have hlt := value_lt (bytes.take 4)
  have hpow : 256 ^ (bytes.take 4).length ≤ 256 ^ 4 :=
    Nat.pow_le_pow_right (by decide) (length_take_le 4 bytes)
  omega

/-- **Inspection** reads inside the payload, wraps nothing, ends, and finds what the list model
says. -/
lemma inspectLoop_eq (hpayload : payload.length ≤ mirrorVideoMaxAccessUnit) (turns offset : ℕ)
    (outputSize : ℕ) (keyframe : Bool) (hoff : offset ≤ payload.length) (hout : outputSize ≤ offset)
    (hturns : payload.length ≤ offset + turns) :
    inspectLoop payload turns offset outputSize keyframe =
      answerOf (inspectAccessUnitFrom (payload.drop offset) outputSize keyframe) := by
  have hmax : mirrorVideoMaxAccessUnit < 2 ^ 62 := by decide
  induction turns generalizing offset outputSize keyframe with
  | zero =>
    have hend : offset = payload.length := by omega
    subst hend
    rw [inspectLoop, if_neg (Nat.lt_irrefl _), drop_length, inspectAccessUnitFrom, if_pos rfl]
    rfl
  | succ turns ih =>
    have hlen : (payload.drop offset).length = payload.length - offset := length_drop
    rw [inspectLoop, inspectAccessUnitFrom]
    by_cases hend : offset < payload.length
    swap
    · rw [if_neg hend, if_pos (drop_eq_nil_of_le (by omega))]
      rfl
    have hne : payload.drop offset ≠ [] := by
      intro hnil
      rw [hnil, length_nil] at hlen
      omega
    rw [if_pos hend, if_neg hne, sizeSub_eq hoff, ok_bind]
    by_cases hshort : (payload.drop offset).length < 4
    · rw [if_pos hshort, goOn_neg (by omega)]
      rfl
    rw [if_neg hshort, goOn_pos (by omega), ok_bind, readBe32_eq (by omega), ok_bind]
    have hvalue := value_take_four_lt (payload.drop offset)
    generalize hsize : value ((payload.drop offset).take 4) = nalSize at hvalue
    have hbehind : ((payload.drop offset).drop 4).length = payload.length - (offset + 4) := by
      rw [drop_drop, length_drop]
    rw [sizeAdd_eq (by omega), ok_bind]
    by_cases hzero : nalSize = 0
    · rw [if_pos (.inl hzero), goOn_neg (not_not.mpr hzero)]
      rfl
    rw [goOn_pos hzero, ok_bind, sizeSub_eq (by omega), ok_bind]
    by_cases hlong : nalSize > payload.length - (offset + 4)
    · rw [if_pos (.inr (.inl (by omega))), goOn_neg (by omega)]
      rfl
    rw [goOn_pos (by omega), ok_bind, sizeAdd_eq (by omega), ok_bind, sizeSub_eq (by omega), ok_bind]
    by_cases hroom : nalSize + 4 > mirrorVideoMaxAccessUnit - outputSize
    · rw [if_pos (.inr (.inr (.inl hroom))), goOn_neg (by omega)]
      rfl
    rw [goOn_pos (by omega), ok_bind, loadByte_eq (by omega), ok_bind, ← drop_drop]
    by_cases hbit : ((payload.drop offset).drop 4).headD 0 &&& 0x80 = 0
    swap
    · rw [if_pos (.inr (.inr (.inr hbit))), goOn_neg hbit]
      rfl
    have hgood : ¬ (nalSize = 0 ∨ nalSize > ((payload.drop offset).drop 4).length ∨
        nalSize + 4 > mirrorVideoMaxAccessUnit - outputSize ∨
        ((payload.drop offset).drop 4).headD 0 &&& 0x80 ≠ 0) := by
      rintro (h | h | h | h)
      · exact hzero h
      · omega
      · exact hroom h
      · exact h hbit
    rw [if_neg hgood, goOn_pos hbit, ok_bind, sizeAdd_eq (by omega), ok_bind, sizeAdd_eq (by omega),
      ok_bind, ih _ _ _ (by omega) (by omega) (by omega), ← drop_drop, ← drop_drop,
      Nat.add_assoc]

/-- The size that inspection predicts is the size of what comes out, and, with start codes as
long as lengths, of what came in. -/
lemma inspectAccessUnitFrom_size (input : List UInt8) (outputSize : ℕ) (keyframe : Bool)
    {result : ℕ × Bool} (h : inspectAccessUnitFrom input outputSize keyframe = some result) :
    result.1 = outputSize + input.length ∧ (writeAccessUnit input).length = input.length := by
  induction input, outputSize, keyframe using inspectAccessUnitFrom.induct with
  | case1 outputSize keyframe =>
    rw [inspectAccessUnitFrom, if_pos rfl] at h
    obtain rfl := some.inj h
    rw [writeAccessUnit, if_pos rfl]
    exact ⟨rfl, rfl⟩
  | case2 input outputSize keyframe hempty hshort =>
    rw [inspectAccessUnitFrom, if_neg hempty, if_pos hshort] at h
    cases h
  | case3 input outputSize keyframe hempty hshort nalSize hbad =>
    rw [inspectAccessUnitFrom, if_neg hempty, if_neg hshort, if_pos hbad] at h
    cases h
  | case4 input outputSize keyframe hempty hshort nalSize hbad ih =>
    rw [inspectAccessUnitFrom, if_neg hempty, if_neg hshort, if_neg hbad] at h
    simp only [not_or, Nat.not_lt, length_drop] at hshort hbad
    obtain ⟨hsize, hrest⟩ := ih h
    have hcode : nalStartCode.length = 4 := rfl
    have hwrote : (writeAccessUnit input).length =
        4 + nalSize + (writeAccessUnit ((input.drop 4).drop nalSize)).length := by
      rw [writeAccessUnit, if_neg hempty, length_append, length_append, hcode,
        length_take_of_le (by rw [length_drop]; exact hbad.2.1)]
    rw [hwrote, hrest, hsize]
    simp only [length_drop]
    omega

/-- **Writing** what inspection has accepted, into an output with room for it. -/
lemma writeLoop_eq (turns offset place outputSize : ℕ) (keyframe : Bool) (output : List UInt8)
    {result : ℕ × Bool}
    (hinsp : inspectAccessUnitFrom (payload.drop offset) outputSize keyframe = some result)
    (hroom : place + (writeAccessUnit (payload.drop offset)).length ≤ output.length)
    (hpayload : payload.length < 2 ^ 62) (hout : output.length < 2 ^ 62)
    (hoff : offset ≤ payload.length) (hturns : payload.length ≤ offset + turns) :
    writeLoop payload turns offset place output =
      .ok (stored output place (writeAccessUnit (payload.drop offset))) := by
  induction turns generalizing offset place outputSize keyframe output with
  | zero =>
    have hend : offset = payload.length := by omega
    subst hend
    rw [writeLoop, if_neg (Nat.lt_irrefl _), drop_length, writeAccessUnit, if_pos rfl, stored_nil]
    rfl
  | succ turns ih =>
    have hlen : (payload.drop offset).length = payload.length - offset := length_drop
    rw [writeLoop]
    by_cases hend : offset < payload.length
    swap
    · rw [if_neg hend, drop_eq_nil_of_le (by omega), writeAccessUnit, if_pos rfl, stored_nil]
      rfl
    have hne : payload.drop offset ≠ [] := by
      intro hnil
      rw [hnil, length_nil] at hlen
      omega
    rw [inspectAccessUnitFrom, if_neg hne] at hinsp
    split at hinsp
    · cases hinsp
    rename_i hshort
    dsimp only at hinsp
    split at hinsp
    · cases hinsp
    rename_i hbad
    have hwrote : writeAccessUnit (payload.drop offset) = nalStartCode ++
        ((payload.drop offset).drop 4).take (value ((payload.drop offset).take 4)) ++
        writeAccessUnit (((payload.drop offset).drop 4).drop
          (value ((payload.drop offset).take 4))) := by
      rw [writeAccessUnit, if_neg hne]
    rw [if_pos hend, readBe32_eq (by omega), ok_bind]
    rw [hwrote] at hroom ⊢
    generalize value ((payload.drop offset).take 4) = nalSize at *
    simp only [not_or, Nat.not_lt] at hshort hbad
    obtain ⟨hpos, hfit, -, -⟩ := hbad
    have hdrop : ((payload.drop offset).drop 4).drop nalSize =
        payload.drop (offset + 4 + nalSize) := by
      rw [drop_drop, drop_drop, Nat.add_assoc]
    have hbehind : ((payload.drop offset).drop 4).length = payload.length - (offset + 4) := by
      rw [drop_drop, length_drop]
    have hnal : (((payload.drop offset).drop 4).take nalSize).length = nalSize :=
      length_take_of_le hfit
    have hcode : nalStartCode.length = 4 := rfl
    rw [hdrop] at hinsp hroom ⊢
    rw [drop_drop] at hroom hnal ⊢
    simp only [length_append, hcode, hnal] at hroom
    rw [sizeAdd_eq (by omega), ok_bind, store_eq (by omega), ok_bind, sizeAdd_eq (by omega), ok_bind,
      loadBytes_eq (by omega), ok_bind]
    generalize (payload.drop (offset + 4)).take nalSize = nal at hnal ⊢
    have hcoded : (stored output place nalStartCode).length = output.length :=
      length_stored (by omega)
    have hplace : place + 4 = place + nalStartCode.length := rfl
    rw [store_eq (by omega), hplace, stored_stored (by omega), ok_bind, sizeAdd_eq (by omega), ok_bind,
      sizeAdd_eq (by omega), ok_bind]
    have hboth : (stored output place (nalStartCode ++ nal)).length = output.length :=
      length_stored (by rw [length_append]; omega)
    rw [ih _ _ _ _ _ hinsp (by omega) (by omega) (by omega) (by omega)]
    have hend : place + nalStartCode.length + nalSize = place + (nalStartCode ++ nal).length := by
      rw [length_append, hnal, Nat.add_assoc]
    rw [hend, stored_stored (by rw [length_append]; omega)]

/-- **`inspect_access_unit`** in memory is the list model. -/
lemma inspectInMemory_eq (payload : List UInt8) :
    inspectInMemory payload = answerOf (inspectAccessUnit payload) := by
  unfold inspectInMemory inspectAccessUnit
  by_cases hsize : payload = [] ∨ payload.length > mirrorVideoMaxAccessUnit
  · have href : ¬ (payload.length ≠ 0 ∧ payload.length ≤ mirrorVideoMaxAccessUnit) := by
      rintro ⟨hne, hle⟩
      rcases hsize with rfl | hlong
      · exact hne rfl
      · omega
    rw [if_pos hsize, goOn_neg href]
    rfl
  · rw [not_or, Nat.not_lt] at hsize
    rw [if_neg (not_or.mpr ⟨hsize.1, Nat.not_lt.mpr hsize.2⟩),
      goOn_pos ⟨fun h => hsize.1 (length_eq_zero_iff.mp h), hsize.2⟩, ok_bind,
      inspectLoop_eq hsize.2 _ _ _ _ (Nat.zero_le _) (Nat.le_refl _) (by omega)]
    rfl

lemma size_of_inspectAccessUnit {size : ℕ} {keyframe : Bool}
    (h : inspectAccessUnit payload = some (size, keyframe)) :
    size = (writeAccessUnit payload).length ∧ size = payload.length ∧
      payload.length ≤ mirrorVideoMaxAccessUnit := by
  unfold inspectAccessUnit at h
  split at h
  · cases h
  rename_i hsize
  rw [not_or, Nat.not_lt] at hsize
  obtain ⟨hpredicted, hwrote⟩ := inspectAccessUnitFrom_size payload 0 false h
  rw [Nat.zero_add] at hpredicted
  exact ⟨hpredicted.trans hwrote.symm, hpredicted, hsize.2⟩

/-- **`write_access_unit`** in memory, behind what is at the front of the output. -/
lemma writeInMemory_eq {size : ℕ} {keyframe : Bool} {output : List UInt8} {place : ℕ}
    (hinsp : inspectAccessUnit payload = some (size, keyframe))
    (hroom : place + size ≤ output.length) (hout : output.length < 2 ^ 62) :
    writeInMemory payload place output = .ok (stored output place (writeAccessUnit payload)) := by
  obtain ⟨hsize, hlen, hpayload⟩ := size_of_inspectAccessUnit hinsp
  unfold inspectAccessUnit at hinsp
  split at hinsp
  · cases hinsp
  exact writeLoop_eq payload.length 0 place 0 false output hinsp
    (by rw [drop_zero]; omega) (by omega) hout (Nat.zero_le _) (by omega)

end AccessUnits

/-! ## Codec configuration -/

/-- `read_be16` -/
def readBe16 (data : List UInt8) (place : ℕ) : Access ℕ := do
  let bytes ← loadBytes data place 2
  return BigEndian.value bytes

/-- `append_nal` in memory: the NAL unit is a part of the input, and the output has a place up to
which it is filled. -/
def appendNalInMemory (avcc : List UInt8) (nalPlace nalSize : ℕ) (output : List UInt8)
    (place : ℕ) : Access (List UInt8 × ℕ) := do
  goOnIf (nalSize ≠ 0 ∧ place ≤ mirrorVideoMaxConfig)
  let needed ← sizeAdd nalSize 4
  let room ← sizeSub mirrorVideoMaxConfig place
  goOnIf (needed ≤ room)
  let first ← loadByte avcc nalPlace
  goOnIf (first &&& 0x80 = 0)
  let output ← store output place nalStartCode
  let place ← sizeAdd place 4
  let nal ← loadBytes avcc nalPlace nalSize
  let output ← store output place nal
  let place ← sizeAdd place nalSize
  return (output, place)

/-- A loop of `parse_parameter_sets` in memory: where it is in the input, the output, and up to
where that is filled. -/
def parameterSetsLoop (avcc : List UInt8) (nalType : UInt8) :
    ℕ → ℕ → List UInt8 → ℕ → Access (ℕ × List UInt8 × ℕ)
  | 0, inputOffset, output, outputOffset => pure (inputOffset, output, outputOffset)
  | count + 1, inputOffset, output, outputOffset => do
    let behindSize ← sizeAdd inputOffset 2
    goOnIf (behindSize ≤ avcc.length)
    let nalSize ← readBe16 avcc inputOffset
    let inputOffset ← sizeAdd inputOffset 2
    goOnIf (nalSize ≠ 0)
    let behind ← sizeAdd inputOffset nalSize
    goOnIf (behind ≤ avcc.length)
    let first ← loadByte avcc inputOffset
    goOnIf (first &&& 0x1F = nalType)
    let (output, outputOffset) ← appendNalInMemory avcc inputOffset nalSize output outputOffset
    let inputOffset ← sizeAdd inputOffset nalSize
    parameterSetsLoop avcc nalType count inputOffset output outputOffset

/-- `parse_parameter_sets` in memory: the output, and `output_size`. -/
def parseInMemory (avcc output : List UInt8) : Access (List UInt8 × ℕ) := do
  goOnIf (avcc.length ≥ 7)
  let version ← loadByte avcc 0
  goOnIf (version = 1)
  let lengths ← loadByte avcc 4
  goOnIf (lengths &&& 0x03 = 3)
  let counts ← loadByte avcc 5
  goOnIf (counts &&& 0x1F ≠ 0)
  let (inputOffset, output, outputOffset) ←
    parameterSetsLoop avcc 7 (counts &&& 0x1F).toNat 6 output 0
  goOnIf (inputOffset < avcc.length)
  let ppsCount ← loadByte avcc inputOffset
  let inputOffset ← sizeAdd inputOffset 1
  goOnIf (ppsCount ≠ 0)
  let (_, output, outputOffset) ← parameterSetsLoop avcc 8 ppsCount.toNat inputOffset output
    outputOffset
  return (output, outputOffset)

section Configuration

/-- A program over a configuration is as the list model says: both refuse, or both go on, with the
output filled up to a place inside it. -/
def Follows {α β : Type} (model : Option α) (program : Access β) (Q : α → β → Prop) : Prop :=
  match model with
  | none => program = .error .refused
  | some answer => ∃ answer', program = .ok answer' ∧ Q answer answer'

/-- The configuration buffer, filled up to a place. -/
structure Filled (output filled : List UInt8) (place : ℕ) : Prop where
  size : output.length = mirrorVideoMaxConfig
  place_le : place ≤ mirrorVideoMaxConfig
  filled : output.take place = filled

variable {avcc output filled : List UInt8} {place : ℕ}

lemma Filled.length_eq (h : Filled output filled place) : filled.length = place := by
  rw [← h.filled, length_take, h.size]
  exact Nat.min_eq_left h.place_le

/-- **`append_nal`** writes inside the configuration buffer. -/
lemma appendNalInMemory_follows (avcc : List UInt8) (nalPlace nalSize : ℕ) (h : Filled output filled place)
    (hnal : nalPlace + nalSize ≤ avcc.length) (hsize : nalSize < 2 ^ 16) (hpos : nalSize ≠ 0) :
    Follows (appendNal filled ((avcc.drop nalPlace).take nalSize))
      (appendNalInMemory avcc nalPlace nalSize output place)
      fun filled' result => Filled result.1 filled' result.2 := by
  have hmax : mirrorVideoMaxConfig = 65536 := rfl
  have hlen : ((avcc.drop nalPlace).take nalSize).length = nalSize := by
    rw [length_take, length_drop]
    omega
  have hfilled := h.length_eq
  have hbuffer := h.size
  have hfirst : ((avcc.drop nalPlace).take nalSize).headD 0 = (avcc.drop nalPlace).headD 0 :=
    headD_take hpos
  have hne : (avcc.drop nalPlace).take nalSize ≠ [] := take_ne_nil hpos (by rw [length_drop]; omega)
  have hcode : nalStartCode.length = 4 := rfl
  unfold appendNal appendNalInMemory
  rw [hlen, hfirst, hfilled, goOn_pos ⟨hpos, h.place_le⟩, ok_bind, sizeAdd_eq (by omega), ok_bind,
    sizeSub_eq h.place_le, ok_bind]
  by_cases hroom : nalSize + 4 > mirrorVideoMaxConfig - place
  · rw [if_pos (.inr (.inr (.inl hroom))), goOn_neg (by omega)]
    rfl
  rw [goOn_pos (by omega), ok_bind, loadByte_eq (by omega), ok_bind]
  by_cases hbit : (avcc.drop nalPlace).headD 0 &&& 0x80 = 0
  swap
  · rw [if_pos (.inr (.inr (.inr hbit))), goOn_neg hbit]
    rfl
  rw [if_neg (by
    rintro (hnil | hlong | hlong | hset)
    · exact hne hnil
    · omega
    · exact hroom hlong
    · exact hset hbit), goOn_pos hbit, ok_bind, store_eq (by omega), ok_bind, sizeAdd_eq (by omega),
    ok_bind, loadBytes_eq hnal, ok_bind]
  generalize (avcc.drop nalPlace).take nalSize = nal at hlen ⊢
  have hcoded : (stored output place nalStartCode).length = output.length :=
    length_stored (by omega)
  have hbehind : place + 4 = place + nalStartCode.length := rfl
  rw [store_eq (by omega), ok_bind, sizeAdd_eq (by omega), hbehind, stored_stored (by omega), ok_bind]
  have hboth : place + (nalStartCode ++ nal).length ≤ output.length := by
    rw [length_append]
    omega
  refine ⟨_, rfl, (length_stored hboth).trans h.size, by dsimp only; omega, ?_⟩
  have hend : place + nalStartCode.length + nalSize = place + (nalStartCode ++ nal).length := by
    rw [length_append, hlen, Nat.add_assoc]
  rw [hend, take_stored hboth, h.filled, append_assoc]

lemma readBe16_eq {place : ℕ} (h : place + 2 ≤ avcc.length) :
    readBe16 avcc place = .ok (value ((avcc.drop place).take 2)) := by
  rw [readBe16, loadBytes_eq h]
  rfl

lemma value_take_two_lt (bytes : List UInt8) : value (bytes.take 2) < 2 ^ 16 := by
  have hlt := value_lt (bytes.take 2)
  have hpow : 256 ^ (bytes.take 2).length ≤ 256 ^ 2 :=
    Nat.pow_le_pow_right (by decide) (length_take_le 2 bytes)
  omega

/-- Where a loop over parameter sets is. -/
structure SetsRead (avcc : List UInt8) (model : List UInt8 × List UInt8)
    (result : ℕ × List UInt8 × ℕ) : Prop where
  inside : result.1 ≤ avcc.length
  rest : avcc.drop result.1 = model.1
  filled : Filled result.2.1 model.2 result.2.2

/-- **A loop over parameter sets** reads inside the configuration. -/
lemma parameterSetsLoop_follows (havcc : avcc.length < 2 ^ 63) (nalType : UInt8)
    (count inputOffset : ℕ) (hinput : inputOffset ≤ avcc.length) (h : Filled output filled place) :
    Follows (parseParameterSetsOf nalType count (avcc.drop inputOffset) filled)
      (parameterSetsLoop avcc nalType count inputOffset output place) (SetsRead avcc) := by
  induction count generalizing inputOffset output filled place with
  | zero => exact ⟨_, rfl, hinput, rfl, h⟩
  | succ count ih =>
    have hlen : (avcc.drop inputOffset).length = avcc.length - inputOffset := length_drop
    unfold parseParameterSetsOf parameterSetsLoop
    rw [sizeAdd_eq (by omega), ok_bind]
    by_cases hshort : (avcc.drop inputOffset).length < 2
    · rw [if_pos hshort, goOn_neg (by omega)]
      rfl
    rw [if_neg hshort, goOn_pos (by omega), ok_bind, readBe16_eq (by omega), ok_bind, ok_bind]
    have hvalue := value_take_two_lt (avcc.drop inputOffset)
    generalize value ((avcc.drop inputOffset).take 2) = nalSize at hvalue ⊢
    rw [drop_drop]
    have hbehind : (avcc.drop (inputOffset + 2)).length = avcc.length - (inputOffset + 2) :=
      length_drop
    by_cases hzero : nalSize = 0
    · rw [if_pos (.inl hzero), goOn_neg (not_not.mpr hzero)]
      rfl
    rw [goOn_pos hzero, ok_bind, sizeAdd_eq (by omega), ok_bind]
    by_cases hlong : nalSize > (avcc.drop (inputOffset + 2)).length
    · rw [if_pos (.inr (.inl hlong)), goOn_neg (by omega)]
      rfl
    rw [goOn_pos (by omega), ok_bind, loadByte_eq (by omega), ok_bind]
    by_cases htype : (avcc.drop (inputOffset + 2)).headD 0 &&& 0x1F = nalType
    swap
    · rw [if_pos (.inr (.inr htype)), goOn_neg htype]
      rfl
    rw [if_neg (by
      rintro (hnil | hpast | hother)
      · exact hzero hnil
      · exact hlong hpast
      · exact hother htype), goOn_pos htype, ok_bind]
    have happend := appendNalInMemory_follows avcc (inputOffset + 2) nalSize h
      (by omega) hvalue hzero
    cases hmodel : appendNal filled ((avcc.drop (inputOffset + 2)).take nalSize) with
    | none =>
      rw [hmodel] at happend
      rw [happend]
      rfl
    | some filled' =>
      rw [hmodel] at happend
      obtain ⟨⟨output', place'⟩, hrun, hfilled⟩ := happend
      rw [hrun, ok_bind, bind_some, drop_drop]
      exact ih _ (by omega) hfilled

/-- **`parse_parameter_sets`** in memory is the list model. -/
lemma parseInMemory_follows (havcc : avcc.length < 2 ^ 63)
    (hout : output.length = mirrorVideoMaxConfig) :
    Follows (parseParameterSets avcc) (parseInMemory avcc output)
      fun parsed result => Filled result.1 parsed result.2 := by
  have hget : ∀ {place : ℕ}, place < avcc.length → loadByte avcc place = .ok (avcc.getD place 0) := by
    intro place hplace
    rw [loadByte_eq hplace, headD_eq_head?_getD, head?_drop, getD_eq_getElem?_getD]
  unfold parseParameterSets parseInMemory
  by_cases hshort : avcc.length < 7
  · rw [if_pos (.inl hshort), goOn_neg (by omega)]
    rfl
  rw [goOn_pos (by omega), ok_bind, hget (by omega), ok_bind]
  by_cases hversion : avcc.getD 0 0 = 1
  swap
  · rw [if_pos (.inr (.inl hversion)), goOn_neg hversion]
    rfl
  rw [goOn_pos hversion, ok_bind, hget (by omega), ok_bind]
  by_cases hlengths : avcc.getD 4 0 &&& 0x03 = 3
  swap
  · rw [if_pos (.inr (.inr hlengths)), goOn_neg hlengths]
    rfl
  rw [if_neg (by
    rintro (h | h | h)
    · exact hshort h
    · exact h hversion
    · exact h hlengths), goOn_pos hlengths, ok_bind, hget (by omega), ok_bind]
  by_cases hcount : avcc.getD 5 0 &&& 0x1F = 0
  · rw [if_pos hcount, goOn_neg (not_not.mpr hcount)]
    rfl
  rw [if_neg hcount, goOn_pos hcount, ok_bind]
  have hempty : Filled output [] 0 := ⟨hout, Nat.zero_le _, take_zero⟩
  have hsps := parameterSetsLoop_follows havcc 7 (avcc.getD 5 0 &&& 0x1F).toNat 6 (by omega) hempty
  cases hmodel : parseParameterSetsOf 7 (avcc.getD 5 0 &&& 0x1F).toNat (avcc.drop 6) [] with
  | none =>
    rw [hmodel] at hsps
    rw [hsps]
    rfl
  | some read =>
    rw [hmodel] at hsps
    obtain ⟨⟨inputOffset, output', place'⟩, hrun, hread⟩ := hsps
    obtain ⟨rest, filled'⟩ := read
    obtain ⟨hinside, hrest, hfilled⟩ := hread
    dsimp only at hinside hrest hfilled
    rw [hrun, ok_bind, bind_some]
    dsimp only
    by_cases hend : inputOffset < avcc.length
    swap
    · rw [drop_eq_nil_of_le (by omega)] at hrest
      rw [← hrest, goOn_neg hend]
      rfl
    rw [drop_eq_getElem_cons hend] at hrest
    have hload : loadByte avcc inputOffset = .ok avcc[inputOffset] := by
      rw [loadByte_eq hend, drop_eq_getElem_cons hend]
      rfl
    rw [← hrest, goOn_pos hend, ok_bind, hload, ok_bind, sizeAdd_eq (by omega), ok_bind]
    dsimp only
    by_cases hpps : avcc[inputOffset] = 0
    · rw [if_pos hpps, goOn_neg (not_not.mpr hpps)]
      rfl
    rw [if_neg hpps, goOn_pos hpps, ok_bind]
    have hloop := parameterSetsLoop_follows havcc 8 avcc[inputOffset].toNat
      (inputOffset + 1) (by omega) hfilled
    cases hlast : parseParameterSetsOf 8 avcc[inputOffset].toNat (avcc.drop (inputOffset + 1)) filled'
      with
    | none =>
      rw [hlast] at hloop
      rw [hloop]
      rfl
    | some read =>
      rw [hlast] at hloop
      obtain ⟨⟨last, output'', place''⟩, hrun, hread⟩ := hloop
      rw [hrun, ok_bind, map_some]
      exact ⟨_, rfl, hread.filled⟩

end Configuration

/-- **The passes agree.**  `inspect_access_unit` stays inside every payload, and either refuses it
or finds its NAL units, with the size and the keyframe of what they come out as; then
`write_access_unit` stays inside the payload and the output too, and fills a place of the predicted
size, behind whatever parameter sets are in front of it, with exactly these NAL units behind start
codes.  `parse_parameter_sets` stays inside every configuration and its 64 KiB of output, and
either refuses the configuration or leaves its parameter sets there. -/
theorem accessUnit_passes (payload avcc output : List UInt8) :
    (inspectInMemory payload = .error .refused ∨
      ∃ size keyframe nals, inspectInMemory payload = .ok (size, keyframe) ∧
        (∀ nal ∈ nals, nal ≠ []) ∧ payload = lengthPrefixed 4 nals ∧
        size = (annexB nals).length ∧ (keyframe = true ↔ ∃ nal ∈ nals, NalOfType 5 nal) ∧
        ∀ place, place ≤ mirrorVideoMaxConfig → output.length = place + size →
          writeInMemory payload place output = .ok (output.take place ++ annexB nals)) ∧
    (avcc.length < 2 ^ 63 → output.length = mirrorVideoMaxConfig →
      parseInMemory avcc output = .error .refused ∨
      ∃ output' size sps pps, parseInMemory avcc output = .ok (output', size) ∧
        output'.length = mirrorVideoMaxConfig ∧ size ≤ mirrorVideoMaxConfig ∧
        DescribesParameterSets avcc sps pps ∧ output'.take size = annexB (sps ++ pps)) := by
  have hconfig : mirrorVideoMaxConfig < 2 ^ 61 := by decide
  have hunit : mirrorVideoMaxAccessUnit < 2 ^ 61 := by decide
  constructor
  · rw [inspectInMemory_eq]
    cases hinspect : inspectAccessUnit payload with
    | none => exact .inl rfl
    | some result =>
      obtain ⟨size, keyframe⟩ := result
      obtain ⟨nals, -, hnals, hpayload, hwritten, hkeyframe⟩ := inspectAccessUnit_some hinspect
      have hsize := size_of_inspectAccessUnit hinspect
      have hpredicted : size = (annexB nals).length := by rw [hsize.1, hwritten]
      refine .inr ⟨size, keyframe, nals, rfl, hnals, hpayload, hpredicted, hkeyframe,
        fun place hplace houtput => ?_⟩
      rw [writeInMemory_eq hinspect (by omega) (by omega), hwritten]
      congr 1
      rw [stored, List.drop_eq_nil_of_le (by omega), List.append_nil]
  · intro havcc houtput
    have hparse := parseInMemory_follows havcc houtput
    cases hmodel : parseParameterSets avcc with
    | none =>
      rw [hmodel] at hparse
      exact .inl hparse
    | some parsed =>
      rw [hmodel] at hparse
      obtain ⟨⟨output', size⟩, hrun, hfilled⟩ := hparse
      obtain ⟨sps, pps, hdescribes, hparsed⟩ := parseParameterSets_some hmodel
      exact .inr ⟨output', size, sps, pps, hrun, hfilled.size, hfilled.place_le, hdescribes,
        hfilled.filled.trans hparsed⟩

/-- Two NAL units, the second a keyframe, behind one byte of parameter sets; and a configuration
with one SPS and one PPS. -/
theorem accessUnit_passes_keyframe :
    (let payload : List UInt8 := [0, 0, 0, 1, 0x09, 0, 0, 0, 2, 0x65, 0xff]
      ∃ size keyframe nals, inspectInMemory payload = .ok (size, keyframe) ∧
        payload = lengthPrefixed 4 nals ∧ keyframe = true ∧
        writeInMemory payload 1 (List.replicate 12 7) = .ok (7 :: annexB nals)) ∧
    ∃ output' size, parseInMemory [1, 0x64, 0, 0x1f, 0xff, 0xe1, 0, 1, 0x67, 1, 0, 1, 0x68]
        (List.replicate mirrorVideoMaxConfig 0) = .ok (output', size) ∧
        size ≤ mirrorVideoMaxConfig := by
  constructor
  · have hpasses := (accessUnit_passes [0, 0, 0, 1, 0x09, 0, 0, 0, 2, 0x65, 0xff] []
      (List.replicate 12 7)).1
    have haccepted : inspectInMemory [0, 0, 0, 1, 0x09, 0, 0, 0, 2, 0x65, 0xff] =
        .ok (11, true) := by
      decide +kernel
    rcases hpasses with hrefused | ⟨size, keyframe, nals, hrun, -, hpayload, -, -, hwrite⟩
    · rw [haccepted] at hrefused
      cases hrefused
    · rw [haccepted] at hrun
      obtain ⟨rfl, rfl⟩ := Prod.mk.inj (Except.ok.inj hrun)
      exact ⟨11, true, nals, haccepted, hpayload, rfl, hwrite 1 (by decide) rfl⟩
  · have hconfig : (List.replicate mirrorVideoMaxConfig (0 : UInt8)).length = mirrorVideoMaxConfig :=
      List.length_replicate
    have hmodel : parseParameterSets [1, 0x64, 0, 0x1f, 0xff, 0xe1, 0, 1, 0x67, 1, 0, 1, 0x68] =
        some [0, 0, 0, 1, 0x67, 0, 0, 0, 1, 0x68] := by
      decide +kernel
    have hparse := @parseInMemory_follows [1, 0x64, 0, 0x1f, 0xff, 0xe1, 0, 1, 0x67, 1, 0, 1, 0x68]
      _ (by decide) hconfig
    obtain ⟨result, haccepted, -⟩ := hparse
    have hpasses := (accessUnit_passes [] [1, 0x64, 0, 0x1f, 0xff, 0xe1, 0, 1, 0x67, 1, 0, 1, 0x68]
      (List.replicate mirrorVideoMaxConfig 0)).2 (by decide) hconfig
    rcases hpasses with hrefused | ⟨output', size, -, -, hrun, -, hsize, -⟩
    · rw [haccepted] at hrefused
      cases hrefused
    · exact ⟨output', size, hrun, hsize⟩

end NXCast
