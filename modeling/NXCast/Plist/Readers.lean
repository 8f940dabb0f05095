import NXCast.Plist.Decode

/-!
# What the decoder's readers return

A valid context (`PlistDecodeContext.Valid`, what `airplay_plist_decode` has checked before it
decodes an object) turns each instrumented reader into a pure expression over slices of the
input: no access falls outside, no size wraps.  The equations here are the only place where
the instrumentation is unfolded; the safety argument and the round trip both rewrite with
them.
-/

namespace NXCast

open Program List

/-- The `length` bytes of the input from `start`. -/
def slice (bytes : List UInt8) (start length : ℕ) : List UInt8 := (bytes.drop start).take length

variable {bytes : List UInt8} {start : ℕ}

lemma length_slice {length : ℕ} (h : start + length ≤ bytes.length) :
    (slice bytes start length).length = length := by
  simp only [slice, length_take, length_drop]
  omega

lemma slice_succ {length : ℕ} (h : start < bytes.length) :
    slice bytes start (length + 1) = bytes[start] :: slice bytes (start + 1) length := by
  rw [slice, drop_eq_getElem_cons h, take_succ_cons, slice]

/-- A stop the source reports to its caller, as opposed to a fault. -/
def Reported (stop : PlistStop) : Prop := ∃ error, stop = .error error

lemma reported_error (error : AirPlayPlistError) : Reported (.error error) := ⟨error, rfl⟩

/-! ## Primitives inside their bounds -/

lemma plistReadByte_eq {index : ℕ} (h : index < bytes.length) :
    plistReadByte bytes index = pure bytes[index] := by
  simp [plistReadByte, getElem?_eq_getElem h]

lemma checkedAdd_eq {left right : ℕ} (h : left + right ≤ sizeMax) :
    checkedAdd left right = pure (left + right) := if_pos h

lemma checkedSub_eq {left right : ℕ} (h : right ≤ left) :
    checkedSub left right = pure (left - right) := if_pos h

lemma checkedMul_eq {left right : ℕ} (h : left * right ≤ sizeMax) :
    checkedMul left right = pure (left * right) := if_pos h

lemma plistReadBytes_eq {length : ℕ} (h : start + length ≤ bytes.length) :
    plistReadBytes bytes start length = pure (slice bytes start length) := by
  induction length generalizing start with
  | zero => simp [plistReadBytes, slice]
  | succ length ih =>
    have hstart : start < bytes.length := by omega
    rw [plistReadBytes, plistReadByte_eq hstart, pure_bind, ih (by omega), pure_bind,
      slice_succ hstart]

/-- The shift-and-or loop reads a big-endian integer; the accumulator never loses a bit,
because at most eight bytes are folded in. -/
lemma plistReadUintLoop_eq {remaining folded value : ℕ} (h : start + remaining ≤ bytes.length)
    (hvalue : value < 256 ^ folded) (hwidth : folded + remaining ≤ 8) :
    plistReadUintLoop bytes start remaining value =
      pure (value * 256 ^ remaining + BigEndian.value (slice bytes start remaining)) := by
  induction remaining generalizing start folded value with
  | zero => simp [plistReadUintLoop, slice]
  | succ remaining ih =>
    have hstart : start < bytes.length := by omega
    have hbyte : bytes[start].toNat < 2 ^ 8 := bytes[start].toNat_lt
    have hnext : value * 256 + bytes[start].toNat < 256 ^ (folded + 1) := by
      omega
    have hword : value <<< 8 < 2 ^ 64 := by
      calc value <<< 8 = value * 256 := Nat.shiftLeft_eq value 8
        _ ≤ value * 256 + bytes[start].toNat := Nat.le_add_right _ _
        _ < 256 ^ (folded + 1) := hnext
        _ ≤ 256 ^ 8 := Nat.pow_le_pow_right (by decide) (by omega)
        _ = 2 ^ 64 := by decide
    have hfold : (value <<< 8) % 2 ^ 64 ||| bytes[start].toNat =
        value * 256 + bytes[start].toNat := by
      rw [Nat.mod_eq_of_lt hword, Unicode.shiftLeft_or_of_lt 8 (n := 256) rfl hbyte]
    rw [plistReadUintLoop, plistReadByte_eq hstart, pure_bind, hfold,
      ih (by omega) hnext (by omega), slice_succ hstart, BigEndian.value_cons,
      length_slice (by omega), Nat.pow_succ, Nat.add_mul]
    congr 1
    rw [Nat.mul_comm (256 ^ remaining), ← Nat.mul_assoc, Nat.add_assoc]

lemma plistReadUint_eq {available width : ℕ} (hpos : 0 < width) (hwidth : width ≤ 8)
    (havailable : width ≤ available) (h : start + width ≤ bytes.length) :
    plistReadUint bytes start available width =
      pure (some (BigEndian.value (slice bytes start width))) := by
  have hloop : plistReadUintLoop bytes start width 0 = _ :=
    plistReadUintLoop_eq h (show 0 < 256 ^ 0 by decide) (by omega)
  rw [plistReadUint, if_neg (by omega), hloop, pure_bind, Nat.zero_mul, Nat.zero_add]

/-! ## The context -/

/-- What `airplay_plist_decode` has checked before it decodes the first object. -/
structure PlistDecodeContext.Valid (context : PlistDecodeContext) : Prop where
  length_eq : context.length = context.bytes.length
  length_le : context.length ≤ airplayPlistMaxBytes
  table_end : context.objectTableEnd = context.offsetTableOffset
  offset_width : plistWidthValid context.offsetSize = true
  reference_width : plistWidthValid context.referenceSize = true
  count_le : context.objectCount ≤ airplayPlistMaxNodes
  table_fits :
    context.offsetTableOffset + context.objectCount * context.offsetSize + 32 ≤ context.length

lemma plistWidthValid_bounds {width : ℕ} (h : plistWidthValid width = true) :
    0 < width ∧ width ≤ 8 := by
  simp only [plistWidthValid, Bool.or_eq_true, beq_iff_eq] at h
  omega

namespace PlistDecodeContext.Valid

variable {context : PlistDecodeContext}

lemma table_end_lt (h : context.Valid) : context.objectTableEnd < context.bytes.length := by
  have h₁ := h.table_fits
  have h₂ := h.length_eq
  have h₃ := h.table_end
  omega

lemma table_end_le (h : context.Valid) : context.objectTableEnd ≤ airplayPlistMaxBytes := by
  have h₁ := h.table_fits
  have h₂ := h.length_le
  have h₃ := h.table_end
  omega

lemma entry_fits (h : context.Valid) {objectId : ℕ} (hid : objectId < context.objectCount) :
    context.offsetTableOffset + objectId * context.offsetSize + context.offsetSize + 32 ≤
      context.length := by
  have hmul : (objectId + 1) * context.offsetSize ≤ context.objectCount * context.offsetSize :=
    Nat.mul_le_mul_right _ hid
  have := h.table_fits
  rw [Nat.add_mul] at hmul
  omega

end PlistDecodeContext.Valid

/-- The offset an entry of the offset table announces. -/
def announcedOffset (context : PlistDecodeContext) (objectId : ℕ) : ℕ :=
  BigEndian.value
    (slice context.bytes (context.offsetTableOffset + objectId * context.offsetSize)
      context.offsetSize)

/-- An entry of the offset table that names a place among the objects. -/
def OffsetValid (context : PlistDecodeContext) (objectId : ℕ) : Prop :=
  objectId < context.objectCount ∧ 8 ≤ announcedOffset context objectId ∧
    announcedOffset context objectId < context.objectTableEnd

instance (context : PlistDecodeContext) (objectId : ℕ) :
    Decidable (OffsetValid context objectId) :=
  inferInstanceAs (Decidable (_ ∧ _ ∧ _))

lemma plistDecodeOffset_eq {context : PlistDecodeContext} (h : context.Valid) (objectId : ℕ) :
    plistDecodeOffset context objectId =
      pure (if OffsetValid context objectId then some (announcedOffset context objectId)
        else none) := by
  have hcount := h.count_le
  have hlen := h.length_le
  have hend := h.table_end_le
  simp only [airplayPlistMaxNodes] at hcount
  simp only [airplayPlistMaxBytes] at hlen hend
  unfold plistDecodeOffset
  by_cases hid : objectId < context.objectCount
  · obtain ⟨hpos, hwidth⟩ := plistWidthValid_bounds h.offset_width
    have hfits := h.entry_fits hid
    have hbytes := h.length_eq
    rw [if_neg (by simp only [sizeMax]; omega)]
    simp only [plistSizeMultiply_eq_some (show objectId * context.offsetSize ≤ sizeMax by
      simp only [sizeMax]; omega)]
    simp only [plistSizeAdd_eq_some
      (show context.offsetTableOffset + objectId * context.offsetSize ≤ sizeMax by
        simp only [sizeMax]; omega)]
    rw [checkedSub_eq (by omega), pure_bind,
      plistReadUint_eq hpos hwidth (by omega) (by omega), pure_bind]
    show (if announcedOffset context objectId < 8 ∨
        announcedOffset context objectId ≥ context.objectTableEnd ∨
        announcedOffset context objectId > sizeMax then _ else _) = _
    by_cases hvalid : OffsetValid context objectId
    · obtain ⟨_, hlow, hhigh⟩ := id hvalid
      rw [if_pos hvalid, if_neg (by simp only [sizeMax]; omega)]
      rfl
    · rw [if_neg hvalid, if_pos]
      unfold OffsetValid at hvalid
      omega
  · rw [if_pos (by omega), if_neg fun hvalid => hid hvalid.1]

/-- A reference of `reference_size` bytes at an offset among the objects. -/
def announcedReference (context : PlistDecodeContext) (offset : ℕ) : ℕ :=
  BigEndian.value (slice context.bytes offset context.referenceSize)

lemma plistDecodeReference_eq {context : PlistDecodeContext} (h : context.Valid) {offset : ℕ}
    (hoff : offset + context.referenceSize ≤ context.objectTableEnd) :
    plistDecodeReference context offset =
      if announcedReference context offset ≥ context.objectCount then
        plistDecodeFail .invalidFormat
      else pure (announcedReference context offset) := by
  obtain ⟨hpos, hwidth⟩ := plistWidthValid_bounds h.reference_width
  have hend := h.table_end_lt
  rw [plistDecodeReference, if_neg (by omega), checkedSub_eq (by omega), pure_bind,
    plistReadUint_eq hpos hwidth (by omega) (by omega), pure_bind]
  rfl

end NXCast
