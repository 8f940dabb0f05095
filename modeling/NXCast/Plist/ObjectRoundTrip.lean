import NXCast.Plist.Layout
import NXCast.Plist.Readers

/-!
# Decoding the objects the encoder wrote

`At bytes offset chunk` says that `chunk` stands at `offset`.  A context *describes* a list of
objects when every entry of its offset table leads to the bytes of that object; over such a
context the decoder gives each tree back from its layout (`decodesTo_of_wellFormed`).

The induction is on the tree.  The invariant that carries it is that no object from the
current number on is marked active: the layout numbers a container before its children, so a
child never meets an ancestor, and the mark of every finished object has been taken back.
-/

namespace NXCast

open Program AirPlayPlistValue Unicode PlistDecodeState List

/-! ## Chunks -/

/-- `chunk` stands at `offset`. -/
def At {α : Type} (list : List α) (offset : ℕ) (chunk : List α) : Prop :=
  chunk <+: list.drop offset

section Chunks

variable {α : Type} {list part more : List α} {bytes chunk : List UInt8} {offset : ℕ}

lemma At.left (h : At list offset (part ++ more)) : At list offset part :=
  (prefix_append part more).trans h

lemma At.right (h : At list offset (part ++ more)) : At list (offset + part.length) more := by
  obtain ⟨tail, htail⟩ := h
  refine ⟨tail, ?_⟩
  rw [← drop_drop, ← htail, append_assoc, drop_left]

lemma At.end_le (h : At list offset part) (hoff : offset ≤ list.length) :
    offset + part.length ≤ list.length := by
  have hle := List.IsPrefix.length_le h
  rw [length_drop] at hle
  omega

lemma At.getElem? {a : α} (h : At list offset (a :: part)) : list[offset]? = some a := by
  obtain ⟨tail, htail⟩ := h
  rw [← head?_drop, ← htail]
  rfl

lemma At.tail {a : α} (h : At list offset (a :: part)) : At list (offset + 1) part := by
  have h' : At list offset ([a] ++ part) := h
  exact h'.right

lemma At.slice (h : At bytes offset chunk) : slice bytes offset chunk.length = chunk := by
  obtain ⟨tail, htail⟩ := h
  rw [NXCast.slice, ← htail, take_left]

lemma At.head {byte : UInt8} (h : At bytes offset (byte :: chunk)) :
    plistReadByte bytes offset = pure byte := by
  simp [plistReadByte, h.getElem?]

lemma At.readUint {value width available : ℕ} (h : At bytes offset (plistUintBytes value width))
    (hpos : 0 < width) (hwidth : width ≤ 8) (havailable : width ≤ available)
    (hoff : offset ≤ bytes.length) (hvalue : value < 256 ^ width) :
    plistReadUint bytes offset available width = pure (some value) := by
  have hlen := h.end_le hoff
  have hslice := h.slice
  rw [length_plistUintBytes] at hlen hslice
  rw [plistReadUint_eq hpos hwidth havailable hlen, hslice, value_plistUintBytes hvalue]

end Chunks

/-! ## Markers -/

lemma land_f0_of_lt {high low : ℕ} (hhigh : high < 16) (hlow : low < 16) :
    (high * 2 ^ 4 + low) &&& 0xf0 = high * 2 ^ 4 := by
  have hall : ∀ high low : Fin 16, (high.val * 2 ^ 4 + low.val) &&& 0xf0 = high.val * 2 ^ 4 := by
    decide +kernel
  exact hall ⟨high, hhigh⟩ ⟨low, hlow⟩

/-- The marker byte of a sized object: its kind, and its length or fifteen. -/
lemma plistMarkerBytes_eq (high length : ℕ) :
    plistMarkerBytes (high * 2 ^ 4) length = UInt8.ofNat (high * 2 ^ 4 + min length 15) ::
        if length < 15 then []
        else UInt8.ofNat (0x10 ||| plistWidthExponent (plistUintWidth length)) ::
          plistUintBytes length (plistUintWidth length) := by
  unfold plistMarkerBytes
  by_cases h : length < 15
  · rw [if_pos h, if_pos h, or_eq_add_of_lt high 4 rfl (by omega), Nat.min_eq_left (by omega)]
  rw [if_neg h, if_neg h, or_eq_add_of_lt high 4 rfl (show 0x0f < 2 ^ 4 by decide),
    Nat.min_eq_right (by omega)]
  rfl

lemma integer_marker {exponent : ℕ} (h : exponent ≤ 3) :
    (UInt8.ofNat (0x10 ||| exponent)).toNat &&& 0xf0 = 0x10 ∧
      (UInt8.ofNat (0x10 ||| exponent)).toNat &&& 0x0f = exponent := by
  obtain rfl | rfl | rfl | rfl : exponent = 0 ∨ exponent = 1 ∨ exponent = 2 ∨ exponent = 3 := by
    omega
  all_goals decide

lemma marker_byte {high length : ℕ} (hhigh : high < 16) :
    (UInt8.ofNat (high * 2 ^ 4 + min length 15)).toNat = high * 2 ^ 4 + min length 15 := by
  rw [UInt8.toNat_ofNat', Nat.mod_eq_of_lt (by omega)]

section Context

variable {context : PlistDecodeContext} (hvalid : context.Valid)
include hvalid

lemma plistDecodeLength_of_at {high length offset : ℕ} {payload : List UInt8}
    (hlen : length ≤ sizeMax)
    (hat : At context.bytes offset (plistMarkerBytes (high * 2 ^ 4) length ++ payload))
    (hend : offset + (plistMarkerBytes (high * 2 ^ 4) length ++ payload).length ≤ context.objectTableEnd) :
    plistDecodeLength context offset (high * 2 ^ 4 + min length 15) =
      pure (length, (plistMarkerBytes (high * 2 ^ 4) length).length) := by
  have hbytes := hvalid.table_end_lt
  have hmax := hvalid.table_end_le
  simp only [airplayPlistMaxBytes] at hmax
  have hlow : (high * 2 ^ 4 + min length 15) &&& 0x0f = min length 15 := by
    rw [Nat.and_two_pow_sub_one_eq_mod _ 4]
    omega
  rw [plistMarkerBytes_eq] at hat hend ⊢
  unfold plistDecodeLength
  rw [hlow]
  by_cases hshort : length < 15
  · rw [if_pos (by omega), Nat.min_eq_left (by omega), if_pos hshort]
    rfl
  rw [if_neg hshort] at hat hend ⊢
  simp only [cons_append, length_cons, length_append, length_plistUintBytes] at hend hat ⊢
  obtain ⟨hpos, hwidth⟩ := plistUintWidth_bounds length
  obtain ⟨hkind, hexponent⟩ :=
    integer_marker (plistWidthExponent_le (plistUintWidth length))
  have hvalue := lt_plistUintWidth (show length < 2 ^ 64 by
    simp only [sizeMax] at hlen
    omega)
  rw [if_neg (by omega)]
  simp only [plistSizeAdd_eq_some (show offset + 1 ≤ sizeMax by simp only [sizeMax]; omega)]
  rw [if_neg (by omega), hat.tail.head, pure_bind, hkind, hexponent, if_neg (by decide),
    if_neg (Nat.not_lt.mpr (plistWidthExponent_le _)), shiftLeft_plistWidthExponent]
  simp only [plistSizeAdd_eq_some (show 2 + plistUintWidth length ≤ sizeMax by
    simp only [sizeMax]; omega)]
  rw [checkedSub_eq (by omega), pure_bind, if_neg (by omega),
    checkedAdd_eq (by simp only [sizeMax]; omega), pure_bind, checkedSub_eq (by omega),
    pure_bind, checkedSub_eq (by omega), pure_bind,
    hat.tail.tail.left.readUint hpos hwidth (by omega) (by omega) hvalue, pure_bind]
  show (if length > sizeMax then _ else _) = _
  rw [if_neg (Nat.not_lt.mpr hlen), Nat.add_comm 2]

lemma plistDecodeNumber_of_at {value width offset : ℕ} {marker : UInt8} (hpos : 0 < width)
    (hwidth : width ≤ 8) (hvalue : value < 256 ^ width)
    (hat : At context.bytes offset (marker :: plistUintBytes value width))
    (hend : offset + 1 + width ≤ context.objectTableEnd) :
    plistDecodeNumber context offset width = pure value := by
  have hbytes := hvalid.table_end_lt
  have hmax := hvalid.table_end_le
  simp only [airplayPlistMaxBytes] at hmax
  rw [plistDecodeNumber, checkedSub_eq (by omega), pure_bind, checkedSub_eq (by omega), pure_bind,
    if_neg (by omega), checkedAdd_eq (by simp only [sizeMax]; omega), pure_bind,
    hat.tail.readUint hpos hwidth (by omega) (by omega) hvalue, pure_bind]

lemma plistDecodeReference_of_at {reference offset : ℕ}
    (hreference : reference < context.objectCount)
    (hfits : context.objectCount ≤ 256 ^ context.referenceSize)
    (hat : At context.bytes offset (plistUintBytes reference context.referenceSize))
    (hend : offset + context.referenceSize ≤ context.objectTableEnd) :
    plistDecodeReference context offset = pure reference := by
  have hslice := hat.slice
  rw [length_plistUintBytes] at hslice
  have hannounced : announcedReference context offset = reference := by
    rw [announcedReference, hslice, value_plistUintBytes (Nat.lt_of_lt_of_le hreference hfits)]
  rw [plistDecodeReference_eq hvalid hend, hannounced, if_neg (by omega)]

end Context

/-! ## Texts -/

lemma plistDecodeAsciiLoop_of_at {bytes text : List UInt8} {start : ℕ}
    (hat : At bytes start text) (htext : ∀ byte ∈ text, byte.toNat ≠ 0 ∧ byte.toNat < 0x80) :
    plistDecodeAsciiLoop bytes start text.length = pure text := by
  induction text generalizing start with
  | nil => rfl
  | cons byte text ih =>
    obtain ⟨hzero, hascii⟩ := htext byte (by simp)
    rw [length_cons, plistDecodeAsciiLoop, hat.head, pure_bind, if_neg (by omega),
      ih hat.tail fun other hother => htext other (by simp [hother]), pure_bind]

lemma plistReadUnit_of_at {bytes : List UInt8} {offset unit : ℕ} (hunit : unit < 2 ^ 16)
    (hat : At bytes offset (plistUintBytes unit 2)) : plistReadUnit bytes offset = pure unit := by
  have hbytes : plistUintBytes unit 2 = [UInt8.ofNat (unit / 256), UInt8.ofNat unit] := by
    rw [plistUintBytes_eq_encode]
    rfl
  rw [hbytes] at hat
  have hhigh : (UInt8.ofNat (unit / 256)).toNat = unit / 256 := by
    rw [UInt8.toNat_ofNat', Nat.mod_eq_of_lt (by omega)]
  have hlow : (UInt8.ofNat unit).toNat = unit % 256 := by simp
  have hunit' : (unit / 256) <<< 8 ||| unit % 256 = unit := by
    rw [shiftLeft_or_of_lt 8 (n := 256) rfl (Nat.mod_lt _ (by decide))]
    omega
  rw [plistReadUnit, hat.head, pure_bind, hat.tail.head, pure_bind, hhigh, hlow, hunit']

lemma high_surrogate {codepoint : ℕ} (h : 0x10000 ≤ codepoint) (h' : codepoint < 0x110000) :
    0xd800 ||| ((codepoint - 0x10000) >>> 10) = 0xd800 + (codepoint - 0x10000) / 1024 := by
  rw [Nat.shiftRight_eq_div_pow, or_eq_add_of_lt 54 10 (n := 1024) rfl (by omega)]

lemma low_surrogate (codepoint : ℕ) :
    0xdc00 ||| ((codepoint - 0x10000) &&& 0x3ff) = 0xdc00 + (codepoint - 0x10000) % 1024 := by
  rw [Nat.and_two_pow_sub_one_eq_mod _ 10, or_eq_add_of_lt 55 10 (n := 1024) rfl (Nat.mod_lt _ (by decide))]

lemma plistUtf16Bytes_cons {c : Char} (hc : c.toNat ≠ 0) (text : List Char) :
    plistUtf16Bytes (utf8 (c :: text)) =
      (utf16Units c).flatMap (fun unit => plistUintBytes unit 2) ++
        plistUtf16Bytes (utf8 text) := by
  rw [utf8_cons, plistUtf16Bytes_of_next (plistUtf8Next_encode hc _)]
  have hscalar := toNat_scalar c
  by_cases hplane : c.toNat < 0x10000
  · simp [utf16Units, hplane]
  · rw [if_neg hplane, high_surrogate (by omega) (by omega), low_surrogate]
    simp [utf16Units, hplane]

lemma plistReadCodepoint_of_at {bytes : List UInt8} {offset remaining : ℕ} {c : Char}
    (hremaining : (utf16Units c).length ≤ remaining + 1)
    (hat : At bytes offset ((utf16Units c).flatMap fun unit => plistUintBytes unit 2)) :
    plistReadCodepoint bytes offset remaining = pure (c.toNat, (utf16Units c).length - 1) := by
  have hscalar := toNat_scalar c
  unfold plistReadCodepoint
  by_cases hplane : c.toNat < 0x10000
  · simp only [utf16Units, if_pos hplane, flatMap_cons, flatMap_nil, append_nil] at hat ⊢
    rw [plistReadUnit_of_at (by omega) hat, pure_bind, if_neg (by omega), if_neg (by omega)]
    rfl
  simp only [utf16Units, if_neg hplane, flatMap_cons, flatMap_nil,
    append_nil, length_cons, length_nil] at hat hremaining ⊢
  have hlow := hat.right
  rw [length_plistUintBytes] at hlow
  have hsum : 0x10000 + ((0xd800 + (c.toNat - 0x10000) / 1024 - 0xd800) <<< 10) +
      (0xdc00 + (c.toNat - 0x10000) % 1024 - 0xdc00) = c.toNat := by
    omega
  rw [plistReadUnit_of_at (by omega) hat.left, pure_bind, if_pos (by omega), if_neg (by omega),
    plistReadUnit_of_at (by omega) hlow, pure_bind, if_neg (by omega), hsum]

lemma plistDecodeUtf16Loop_of_at {bytes : List UInt8} {chars : List Char}
    (hnul : ∀ c ∈ chars, c.toNat ≠ 0) {maximumBytes offset : ℕ} {text : List UInt8}
    (hroom : text.length + (utf8 chars).length ≤ maximumBytes)
    (hat : At bytes offset (plistUtf16Bytes (utf8 chars))) :
    plistDecodeUtf16Loop bytes maximumBytes offset text (utf16 chars).length =
      pure (text ++ utf8 chars) := by
  induction chars generalizing offset text with
  | nil => simp [plistDecodeUtf16Loop]
  | cons c chars ih =>
    have hc := hnul c (by simp)
    rw [plistUtf16Bytes_cons hc] at hat
    rw [utf8_cons, length_append] at hroom
    have hunits : (utf16Units c).length = 1 ∨ (utf16Units c).length = 2 := by
      rw [units_increment]
      split <;> simp
    have hbytes : ((utf16Units c).flatMap fun unit => plistUintBytes unit 2).length =
        2 * (utf16Units c).length := by
      simp [length_flatMap, Nat.mul_comm]
    have hrest := hat.right
    rw [hbytes] at hrest
    have hcount : (utf16 (c :: chars)).length =
        (utf16Units c).length - 1 + (utf16 chars).length + 1 := by
      rw [utf16_cons, length_append]
      omega
    rw [hcount, plistDecodeUtf16Loop, plistReadCodepoint_of_at (by omega) hat.left, pure_bind]
    dsimp only
    rw [if_neg hc, plistUtf8Append_encode hc (by omega)]
    dsimp only
    rw [show (utf16Units c).length - 1 + 1 = (utf16Units c).length by omega,
      Nat.add_sub_cancel_left, ih (fun d hd => hnul d (by simp [hd])) (by
        rw [length_append]; omega) hrest, append_assoc, utf8_cons]

lemma length_plistUtf16Bytes {chars : List Char} (hnul : ∀ c ∈ chars, c.toNat ≠ 0) :
    (plistUtf16Bytes (utf8 chars)).length = (utf16 chars).length * 2 := by
  induction chars with
  | nil => simp [plistUtf16Bytes]
  | cons c chars ih =>
    rw [plistUtf16Bytes_cons (hnul c (by simp)), length_append,
      ih fun d hd => hnul d (by simp [hd])]
    simp [length_flatMap, Nat.add_mul]

lemma byte_of_asciiText {chars : List Char} (hnul : ∀ c ∈ chars, c.toNat ≠ 0)
    (hascii : asciiText chars = true) :
    ∀ byte ∈ utf8 chars, byte.toNat ≠ 0 ∧ byte.toNat < 0x80 := by
  intro byte hbyte
  obtain ⟨c, hc, hmem⟩ := mem_flatMap.mp hbyte
  have hlow : c.toNat < 0x80 := by simpa using all_eq_true.mp hascii c hc
  rw [utf8EncodeChar_one hlow, mem_singleton] at hmem
  rw [hmem, UInt8.toNat_ofNat', Nat.mod_eq_of_lt (by omega)]
  exact ⟨hnul c hc, hlow⟩

/-! ## Objects without children -/

section Objects

variable {context : PlistDecodeContext} (hvalid : context.Valid)
include hvalid

lemma plistDecodeMarked_of_at {high kind length offset : ℕ} {payload : List UInt8}
    (hkind : kind = high * 2 ^ 4) (hhigh : high = 4 ∨ high = 5 ∨ high = 6 ∨ high = 10 ∨ high = 13)
    (hlen : length ≤ sizeMax)
    (hat : At context.bytes offset (plistMarkerBytes kind length ++ payload))
    (hend : offset + (plistMarkerBytes kind length ++ payload).length ≤ context.objectTableEnd) :
    ∃ marker, plistReadByte context.bytes offset = pure marker ∧
      ∀ decode, plistDecodeMarked context decode offset marker.toNat =
        plistDecodeSized context decode (offset + (plistMarkerBytes kind length).length) kind
          length := by
  have hmax := hvalid.table_end_le
  simp only [airplayPlistMaxBytes] at hmax
  subst hkind
  have hheader := plistDecodeLength_of_at hvalid hlen hat hend
  have hhead := hat
  rw [plistMarkerBytes_eq] at hhead
  refine ⟨_, hhead.head, fun decode => ?_⟩
  rw [length_append] at hend
  rw [marker_byte (by omega)]
  simp only [plistDecodeMarked, land_f0_of_lt (show high < 16 by omega)
    (show min length 15 < 16 by omega)]
  rw [if_neg (by omega), if_neg (by omega), if_neg (by omega), if_pos (by omega), hheader,
    pure_bind]
  simp only [plistSizeAdd_eq_some
    (show offset + (plistMarkerBytes (high * 2 ^ 4) length).length ≤ sizeMax by
      simp only [sizeMax]; omega)]

lemma plistDecodeMarked_text {text : CString} {offset : ℕ} (h : (plistUtf8Measure text).isSome)
    (hat : At context.bytes offset (plistTextBytes text))
    (hend : offset + (plistTextBytes text).length ≤ context.objectTableEnd) :
    ∃ marker, plistReadByte context.bytes offset = pure marker ∧
      ∀ decode, plistDecodeMarked context decode offset marker.toNat = pure (.string text) := by
  obtain ⟨⟨units, ascii⟩, hmeas⟩ := Option.isSome_iff_exists.mp h
  have hnew : airplayPlistNewString text = some (.string text) :=
    airplayPlistNewString_eq_some_iff.mpr ⟨h, rfl⟩
  obtain ⟨chars, htext, hstrlen, hunits, hascii, hmax, hhalf⟩ :=
    (plistUtf8Measure_eq_some_iff text units ascii).mp hmeas
  simp only [CString.strlen] at hstrlen
  simp only [airplayPlistMaxStringBytes] at hstrlen hmax hhalf
  have hnul : ∀ c ∈ chars, c.toNat ≠ 0 := fun c hc hz =>
    text.nul_free (by rw [htext]; exact zero_mem_utf8.mpr ⟨c, hc, hz⟩)
  simp only [plistTextBytes, hmeas, CString.strlen] at hat hend
  cases ascii with
  | true =>
    simp only [if_true] at hat hend
    obtain ⟨marker, hmarker, hmark⟩ := plistDecodeMarked_of_at hvalid
      (show 0x50 = 5 * 2 ^ 4 by rfl) (by omega) (by simp only [sizeMax]; omega) hat hend
    refine ⟨marker, hmarker, fun decode => ?_⟩
    have hbound : ∀ byte ∈ text.bytes, byte.toNat ≠ 0 ∧ byte.toNat < 0x80 := by
      rw [htext]
      exact byte_of_asciiText hnul hascii.symm
    rw [length_append] at hend
    rw [hmark, plistDecodeSized, if_neg (by decide), if_pos (by decide),
      checkedSub_eq (by omega), pure_bind, if_neg (by omega), plistDecodeAsciiString,
      if_neg (by simp only [airplayPlistMaxStringBytes]; omega),
      checkedAdd_eq (by simp only [sizeMax]; omega), pure_bind,
      plistDecodeAsciiLoop_of_at hat.right hbound, pure_bind, CString.ofBuffer_bytes, hnew]
  | false =>
    simp only [Bool.false_eq_true, if_false] at hat hend
    have hhalf' := hhalf rfl
    obtain ⟨marker, hmarker, hmark⟩ := plistDecodeMarked_of_at hvalid
      (show 0x60 = 6 * 2 ^ 4 by rfl) (by omega) (by simp only [sizeMax]; omega) hat hend
    refine ⟨marker, hmarker, fun decode => ?_⟩
    have hlen := length_utf8_le chars
    rw [htext] at hstrlen
    rw [htext] at hat
    rw [htext, length_append, length_plistUtf16Bytes hnul, ← hunits] at hend
    have hloop := @plistDecodeUtf16Loop_of_at context.bytes chars hnul
      (min (units * 3) airplayPlistMaxStringBytes) _ []
      (by simp only [length_nil, airplayPlistMaxStringBytes]; omega) hat.right
    rw [← hunits, nil_append, ← htext] at hloop
    rw [hmark, plistDecodeSized, if_neg (by decide), if_neg (by decide), if_pos (by decide),
      plistSizeMultiply_eq_some (by simp only [sizeMax]; omega)]
    dsimp only
    rw [checkedSub_eq (by omega), pure_bind, if_neg (by omega), plistDecodeUtf16String,
      if_neg (by simp only [airplayPlistMaxStringBytes]; omega),
      plistSizeMultiply_eq_some (by simp only [sizeMax]; omega)]
    dsimp only
    rw [checkedAdd_eq (by simp only [sizeMax, airplayPlistMaxStringBytes]; omega), pure_bind,
      hloop, pure_bind, CString.ofBuffer_bytes, hnew]

/-- An object is decoded to a value without looking at any other object. -/
def DecodesAlone (context : PlistDecodeContext) (object : PlistEncodeObject)
    (value : AirPlayPlistValue) : Prop :=
  ∀ offset, At context.bytes offset (plistObjectBytes context.referenceSize object) →
    offset + (plistObjectBytes context.referenceSize object).length ≤ context.objectTableEnd →
    ∃ marker, plistReadByte context.bytes offset = pure marker ∧
      ∀ decode, plistDecodeMarked context decode offset marker.toNat = pure value

omit hvalid in
lemma decodesAlone_bool (value : Bool) (references : List ℕ) :
    DecodesAlone context (.value (.bool value) references) (.bool value) := by
  intro offset hat _
  refine ⟨_, hat.head, fun decode => ?_⟩
  cases value <;> rfl

lemma decodesAlone_uint (value : UInt64) (references : List ℕ) :
    DecodesAlone context (.value (.uint value) references) (.uint value) := by
  intro offset hat hend
  simp only [plistObjectBytes] at hat hend
  rw [length_cons, length_plistUintBytes] at hend
  have hexponent := plistWidthExponent_le (plistUintWidth value.toNat)
  obtain ⟨hkind, hlow⟩ := integer_marker hexponent
  obtain ⟨hpos, hwidth⟩ := plistUintWidth_bounds value.toNat
  refine ⟨_, hat.head, fun decode => ?_⟩
  have hmarker : ¬((UInt8.ofNat (0x10 ||| plistWidthExponent (plistUintWidth value.toNat))).toNat =
      0x08 ∨ (UInt8.ofNat (0x10 ||| plistWidthExponent (plistUintWidth value.toNat))).toNat =
      0x09) := by
    rintro (h | h) <;>
    · rw [h] at hkind
      cases hkind
  rw [plistDecodeMarked, if_neg hmarker]
  rw [hkind, hlow, if_pos rfl, if_neg (by omega), shiftLeft_plistWidthExponent,
    plistDecodeNumber_of_at hvalid hpos hwidth (lt_plistUintWidth value.toNat_lt) hat (by omega),
    pure_bind, UInt64.ofNat_toNat]
  rfl

lemma decodesAlone_real (bits : UInt64) (references : List ℕ) :
    DecodesAlone context (.value (.real bits) references) (.real bits) := by
  intro offset hat hend
  simp only [plistObjectBytes] at hat hend
  rw [length_cons, length_plistUintBytes] at hend
  refine ⟨_, hat.head, fun decode => ?_⟩
  have hnumber := plistDecodeNumber_of_at hvalid (by decide) (by decide)
    (show bits.toNat < 256 ^ 8 from bits.toNat_lt) hat (by omega)
  have hmark : plistDecodeMarked context decode offset 0x23 = (do
      let bits ← plistDecodeNumber context offset 8
      pure (airplayPlistNewReal (UInt64.ofNat bits))) := rfl
  rw [show (0x23 : UInt8).toNat = 0x23 from rfl, hmark, hnumber, pure_bind, UInt64.ofNat_toNat]
  rfl

lemma decodesAlone_data {bytes : List UInt8} (h : bytes.length ≤ airplayPlistMaxDataBytes)
    (references : List ℕ) :
    DecodesAlone context (.value (.data bytes) references) (.data bytes) := by
  intro offset hat hend
  have hbytes := hvalid.table_end_lt
  simp only [plistObjectBytes] at hat hend
  have hsize : bytes.length ≤ sizeMax := by
    simp only [airplayPlistMaxDataBytes] at h
    simp only [sizeMax]
    omega
  obtain ⟨marker, hmarker, hmark⟩ := plistDecodeMarked_of_at hvalid
    (show 0x40 = 4 * 2 ^ 4 by rfl) (by omega) hsize hat hend
  rw [length_append] at hend
  have hnew : airplayPlistNewData bytes = some (.data bytes) := if_neg (Nat.not_lt.mpr h)
  refine ⟨marker, hmarker, fun decode => ?_⟩
  rw [hmark, plistDecodeSized, if_pos rfl, if_neg (Nat.not_lt.mpr h), checkedSub_eq (by omega),
    pure_bind, if_neg (by omega), plistReadBytes_eq (by omega), pure_bind, hat.right.slice, hnew]

lemma decodesAlone_string {text : CString} (h : (plistUtf8Measure text).isSome)
    (references : List ℕ) :
    DecodesAlone context (.value (.string text) references) (.string text) :=
  fun _ hat hend => plistDecodeMarked_text hvalid h hat hend

lemma decodesAlone_key {key : CString} (h : (plistUtf8Measure key).isSome) :
    DecodesAlone context (.key key) (.string key) :=
  fun _ hat hend => plistDecodeMarked_text hvalid h hat hend

end Objects

lemma length_plistReferenceBytes (referenceSize : ℕ) (references : List ℕ) :
    (plistReferenceBytes referenceSize references).length = references.length * referenceSize := by
  simp [plistReferenceBytes, length_flatMap]

/-! ## Runs over a described list of objects -/

/-- A context whose offset table leads to the bytes of the given objects. -/
structure Describes (context : PlistDecodeContext) (objects : List PlistEncodeObject) : Prop where
  valid : context.Valid
  count_eq : context.objectCount = objects.length
  count_fits : objects.length ≤ 256 ^ context.referenceSize
  located : ∀ objectId object, objects[objectId]? = some object →
    8 ≤ announcedOffset context objectId ∧
      announcedOffset context objectId < context.objectTableEnd ∧
      announcedOffset context objectId +
          (plistObjectBytes context.referenceSize object).length ≤ context.objectTableEnd ∧
      At context.bytes (announcedOffset context objectId)
        (plistObjectBytes context.referenceSize object)

/-- The walk has entered `nodes` more objects and has left all of them. -/
structure Advanced (state : PlistDecodeState) (nodes : ℕ) (final : PlistDecodeState) : Prop where
  active_eq : final.activeObjects = state.activeObjects
  nodes_eq : final.decodedNodes = state.decodedNodes + nodes

lemma Advanced.refl (state : PlistDecodeState) : Advanced state 0 state := ⟨rfl, rfl⟩

variable {final : PlistDecodeState} {nodes : ℕ}

lemma Advanced.trans {state middle : PlistDecodeState} {more : ℕ}
    (h : Advanced state nodes middle) (h' : Advanced middle more final) :
    Advanced state (nodes + more) final :=
  ⟨h'.active_eq.trans h.active_eq, by rw [h'.nodes_eq, h.nodes_eq, Nat.add_assoc]⟩

/-- No object from `base` on is being decoded. -/
def IdleFrom (base : ℕ) (state : PlistDecodeState) : Prop :=
  ∀ objectId, base ≤ objectId → state.activeObjects objectId = false

lemma IdleFrom.mono {base base' : ℕ} {state : PlistDecodeState} (h : IdleFrom base state)
    (hle : base ≤ base') : IdleFrom base' state :=
  fun objectId hid => h objectId (hle.trans hid)

lemma IdleFrom.advanced {base : ℕ} {state : PlistDecodeState} (h : IdleFrom base state)
    (hadv : Advanced state nodes final) : IdleFrom base final :=
  fun objectId hid => by rw [hadv.active_eq, h objectId hid]

lemma IdleFrom.enter {base depth : ℕ} {state : PlistDecodeState} (h : IdleFrom base state) :
    IdleFrom (base + 1) (state.enter base depth) := by
  intro objectId hid
  rw [enter_activeObjects, Function.update_of_ne (by omega)]
  exact h objectId (by omega)

variable {objectId : ℕ}

lemma Advanced.around {depth : ℕ} {state : PlistDecodeState}
    (hidle : state.activeObjects objectId = false)
    (h : Advanced (state.enter objectId depth) nodes final) :
    Advanced state (nodes + 1) (final.leave objectId) where
  active_eq := by
    rw [leave_activeObjects, h.active_eq, enter_activeObjects,
      Function.update_idem, ← hidle, Function.update_eq_self]
  nodes_eq := by
    rw [leave_decodedNodes, h.nodes_eq, enter_decodedNodes, Nat.add_right_comm, Nat.add_assoc]

section Runs

variable {context : PlistDecodeContext} {objects : List PlistEncodeObject}
  (hdescribes : Describes context objects)
include hdescribes

variable {value : AirPlayPlistValue}

/-- A run of `plistDecodeObject` on a described object: whatever the dispatch on its marker
returns. -/
lemma plistDecodeObject_run {depth : ℕ} {object : PlistEncodeObject}
    {state : PlistDecodeState} {marker : UInt8}
    (hobj : objects[objectId]? = some object) (hdepth : depth ≤ airplayPlistMaxDepth)
    (hnodes : state.decodedNodes < airplayPlistMaxNodes)
    (hidle : state.activeObjects objectId = false)
    (hmarker : plistReadByte context.bytes (announcedOffset context objectId) = pure marker)
    (hrun : plistDecodeMarked context (fun reference => plistDecodeObject context reference (depth + 1)) (announcedOffset context objectId) marker.toNat (state.enter objectId depth) = .ok value final)
    (hadv : Advanced (state.enter objectId depth) nodes final) :
    ∃ last, plistDecodeObject context objectId depth state = .ok value last ∧
      Advanced state (nodes + 1) last := by
  obtain ⟨hlow, hinside, -⟩ := hdescribes.located objectId object hobj
  have hid : objectId < context.objectCount := by
    rw [hdescribes.count_eq]
    exact (List.getElem?_eq_some_iff.mp hobj).1
  refine ⟨final.leave objectId, ?_, hadv.around hidle⟩
  have hget : (get : PlistDecodeM PlistDecodeState) state = .ok state state := rfl
  rw [plistDecodeObject, run_bind_of_ok hget, dif_neg (by omega), if_neg (by simp [hidle, hid]),
    plistDecodeOffset_eq hdescribes.valid, pure_bind, if_pos ⟨hid, hlow, hinside⟩]
  have henter : (modify fun state => state.enter objectId depth : PlistDecodeM PUnit) state =
      .ok ⟨⟩ (state.enter objectId depth) := rfl
  have hleave : (modify fun state => state.leave objectId : PlistDecodeM PUnit) final =
      .ok ⟨⟩ (final.leave objectId) := rfl
  dsimp only
  rw [run_bind_of_ok henter, hmarker, pure_bind, run_bind_of_ok hrun, run_bind_of_ok hleave]
  rfl

lemma plistDecodeObject_alone {depth : ℕ} {object : PlistEncodeObject}
    {state : PlistDecodeState} (hobj : objects[objectId]? = some object)
    (halone : DecodesAlone context object value) (hdepth : depth ≤ airplayPlistMaxDepth)
    (hnodes : state.decodedNodes < airplayPlistMaxNodes) (hidle : IdleFrom objectId state) :
    ∃ last, plistDecodeObject context objectId depth state = .ok value last ∧
      Advanced state 1 last := by
  obtain ⟨-, -, hend, hat⟩ := hdescribes.located objectId object hobj
  obtain ⟨marker, hmarker, hmark⟩ := halone _ hat hend
  have hrun : plistDecodeMarked context
      (fun reference => plistDecodeObject context reference (depth + 1))
      (announcedOffset context objectId) marker.toNat (state.enter objectId depth) =
        .ok value (state.enter objectId depth) := by
    rw [hmark]
    rfl
  exact plistDecodeObject_run hdescribes hobj hdepth hnodes (hidle objectId le_rfl) hmarker hrun
    (.refl _)

lemma plistDecodeReference_head {reference offset : ℕ} {references : List ℕ}
    (hreference : reference < objects.length) (hat : At context.bytes offset
      (plistReferenceBytes context.referenceSize (reference :: references)))
    (hend : offset + context.referenceSize ≤ context.objectTableEnd) :
    plistDecodeReference context offset = pure reference ∧
      At context.bytes (offset + context.referenceSize)
        (plistReferenceBytes context.referenceSize references) := by
  have htail := hat.right
  rw [length_plistUintBytes] at htail
  refine ⟨?_, htail⟩
  have hcount := hdescribes.count_eq
  have hfits := hdescribes.count_fits
  exact plistDecodeReference_of_at hdescribes.valid (by omega) (by omega) hat.left hend

omit hdescribes in
/-- The tree's layout, wherever it stands among the objects, is decoded to the tree. -/
def DecodesTo (context : PlistDecodeContext) (objects : List PlistEncodeObject)
    (value : AirPlayPlistValue) : Prop :=
  ∀ (objectId depth : ℕ) (state : PlistDecodeState), At objects objectId (layout objectId value) →
    depth + value.height ≤ airplayPlistMaxDepth →
    state.decodedNodes + value.nodeCount ≤ airplayPlistMaxNodes → IdleFrom objectId state →
    ∃ last, plistDecodeObject context objectId depth state = .ok value last ∧
      Advanced state value.nodeCount last

omit hdescribes in
lemma lt_of_at_layout (hwell : value.WellFormed)
    (hat : At objects objectId (layout objectId value)) : objectId < objects.length := by
  have hle := List.IsPrefix.length_le hat
  have hpos := nodeCount_pos value
  rw [length_drop, length_layout hwell] at hle
  omega

/-- The item loop: each step reads a reference, decodes the item laid out there, and appends
it. -/
lemma plistDecodeItems_run {payloadOffset base depth : ℕ} {todo done : List AirPlayPlistValue}
    {state : PlistDecodeState} (hwell : ∀ item ∈ todo, item.WellFormed)
    (hdecode : ∀ item ∈ todo, DecodesTo context objects item)
    (hlayout : At objects base (layoutItems base todo))
    (hat : At context.bytes (payloadOffset + done.length * context.referenceSize) (plistReferenceBytes context.referenceSize (objectNumbers base todo)))
    (hend : payloadOffset + (done.length + todo.length) * context.referenceSize ≤ context.objectTableEnd)
    (hlen : done.length + todo.length ≤ airplayPlistMaxContainerItems)
    (hdepth : ∀ item ∈ todo, depth + 1 + item.height ≤ airplayPlistMaxDepth)
    (hnodes : state.decodedNodes + (todo.map nodeCount).sum ≤ airplayPlistMaxNodes)
    (hidle : IdleFrom base state) :
    ∃ last, plistDecodeItems context
        (fun reference => plistDecodeObject context reference (depth + 1)) payloadOffset
        todo.length done.length (.array done) state = .ok (.array (done ++ todo)) last ∧
      Advanced state (todo.map nodeCount).sum last := by
  have hmax := hdescribes.valid.table_end_le
  simp only [airplayPlistMaxBytes] at hmax
  induction todo generalizing done base state with
  | nil => exact ⟨state, by simp [plistDecodeItems]; rfl, .refl state⟩
  | cons item todo ih =>
    rw [map_cons, sum_cons] at hnodes
    rw [length_cons] at hend hlen
    have hitem := hwell item (by simp)
    have hstep : (done.length + 1) * context.referenceSize ≤
        (done.length + (todo.length + 1)) * context.referenceSize :=
      Nat.mul_le_mul_right _ (by omega)
    rw [Nat.add_mul, Nat.one_mul] at hstep
    obtain ⟨hreference, hrest⟩ := plistDecodeReference_head hdescribes
      (lt_of_at_layout hitem hlayout.left) hat (by omega)
    obtain ⟨middle, hrun, hadv⟩ := hdecode item (by simp) base (depth + 1) state hlayout.left
      (hdepth item (by simp)) (by omega) hidle
    have hnext := hlayout.right
    rw [length_layout hitem] at hnext
    have happend : (done ++ [item]).length = done.length + 1 := by
      rw [length_append, length_singleton]
    obtain ⟨last, hloop, hfinal⟩ := @ih _ (done ++ [item]) middle
      (fun other hother => hwell other (by simp [hother]))
      (fun other hother => hdecode other (by simp [hother])) hnext
      (by rw [happend, Nat.add_mul, Nat.one_mul, ← Nat.add_assoc]; exact hrest)
      (by rw [happend, Nat.add_assoc, Nat.add_comm 1]; exact hend) (by omega)
      (fun other hother => hdepth other (by simp [hother]))
      (by rw [hadv.nodes_eq]; omega)
      ((hidle.advanced hadv).mono (Nat.le_add_right _ _))
    refine ⟨last, ?_, hadv.trans hfinal⟩
    rw [length_cons, plistDecodeItems, checkedMul_eq (by simp only [sizeMax]; omega),
      pure_bind, checkedAdd_eq (by simp only [sizeMax]; omega), pure_bind, hreference, pure_bind,
      run_bind_of_ok hrun, airplayPlistArrayAppend_of_lt item (by omega)]
    rw [happend, append_assoc] at hloop
    exact hloop

/-- The entry loop: each step reads the two references of an entry, decodes the key and the
value laid out there, and adds the entry. -/
lemma plistDecodeEntries_run {payloadOffset referencesBytes keyBase base depth : ℕ}
    {todo done : List (CString × AirPlayPlistValue)} {state : PlistDecodeState}
    (hwell : ∀ entry ∈ todo, entry.2.WellFormed)
    (hkeys : ∀ entry ∈ todo, (plistUtf8Measure entry.1).isSome)
    (hnodup : ((done ++ todo).map Prod.fst).Nodup)
    (hdecode : ∀ entry ∈ todo, DecodesTo context objects entry.2)
    (hkeyLayout : At objects keyBase (todo.map fun entry => .key entry.1))
    (hlayout : At objects base (layoutItems base (todo.map Prod.snd)))
    (hkeyAt : At context.bytes (payloadOffset + done.length * context.referenceSize) (plistReferenceBytes context.referenceSize (range' keyBase todo.length)))
    (hat : At context.bytes (payloadOffset + referencesBytes + done.length * context.referenceSize) (plistReferenceBytes context.referenceSize (objectNumbers base (todo.map Prod.snd))))
    (hroom : (done.length + todo.length) * context.referenceSize ≤ referencesBytes)
    (hend : payloadOffset + referencesBytes * 2 ≤ context.objectTableEnd)
    (hlen : done.length + todo.length ≤ airplayPlistMaxContainerItems)
    (hdepth : ∀ entry ∈ todo, depth + 1 + entry.2.height ≤ airplayPlistMaxDepth)
    (hnodes : state.decodedNodes + todo.length + (todo.map fun entry => entry.2.nodeCount).sum ≤ airplayPlistMaxNodes)
    (hbase : keyBase ≤ base) (hidle : IdleFrom keyBase state) :
    ∃ last, plistDecodeEntries context
        (fun reference => plistDecodeObject context reference (depth + 1)) payloadOffset
        referencesBytes todo.length done.length (.dict done) state =
          .ok (.dict (done ++ todo)) last ∧
      Advanced state (todo.length + (todo.map fun entry => entry.2.nodeCount).sum) last := by
  have hmax := hdescribes.valid.table_end_le
  simp only [airplayPlistMaxBytes] at hmax
  induction todo generalizing done keyBase base state with
  | nil => exact ⟨state, by simp [plistDecodeEntries]; rfl, .refl state⟩
  | cons entry todo ih =>
    obtain ⟨key, value⟩ := entry
    rw [map_cons, sum_cons] at hnodes
    rw [length_cons] at hlen hroom hnodes
    dsimp only at hnodes
    have hvalue := hwell (key, value) (by simp)
    have hkey := hkeys (key, value) (by simp)
    have hstep : (done.length + 1) * context.referenceSize ≤
        (done.length + (todo.length + 1)) * context.referenceSize :=
      Nat.mul_le_mul_right _ (by omega)
    rw [Nat.add_mul, Nat.one_mul] at hstep
    have hkeyObject := hkeyLayout.getElem?
    have hkeyId := (List.getElem?_eq_some_iff.mp hkeyObject).1
    obtain ⟨hkeyReference, hkeyRest⟩ := plistDecodeReference_head hdescribes hkeyId hkeyAt
      (by omega)
    obtain ⟨hreference, hrest⟩ := plistDecodeReference_head hdescribes
      (lt_of_at_layout hvalue hlayout.left) hat (by omega)
    have hdeep : depth + 1 + value.height ≤ airplayPlistMaxDepth := hdepth (key, value) (by simp)
    -- the key, then the value
    obtain ⟨keyed, hkeyRun, hkeyed⟩ := plistDecodeObject_alone hdescribes hkeyObject
      (decodesAlone_key hdescribes.valid hkey) (show depth + 1 ≤ _ by omega)
      (show state.decodedNodes < _ by omega) hidle
    obtain ⟨middle, hrun, hadv⟩ := hdecode (key, value) (by simp) base (depth + 1) keyed
      hlayout.left hdeep (by rw [hkeyed.nodes_eq]; dsimp only; omega)
      ((hidle.advanced hkeyed).mono hbase)
    have hnext := hlayout.right
    rw [length_layout hvalue] at hnext
    have hkeyNext := hkeyLayout.tail
    have habsent : key ∉ done.map Prod.fst := by
      rw [map_append, map_cons, nodup_append'] at hnodup
      intro hmem
      exact hnodup.2.2 hmem (by simp)
    have hlookup : airplayPlistDictGet (.dict done) key = none :=
      airplayPlistDictGet_eq_none_iff.mpr habsent
    have happend : (done ++ [(key, value)]).length = done.length + 1 := by
      rw [length_append, length_singleton]
    obtain ⟨last, hloop, hfinal⟩ := @ih (keyBase + 1) (base + value.nodeCount)
      (done ++ [(key, value)]) middle
      (fun other hother => hwell other (by simp [hother]))
      (fun other hother => hkeys other (by simp [hother]))
      (by rw [append_assoc]; exact hnodup)
      (fun other hother => hdecode other (by simp [hother])) hkeyNext hnext
      (by rw [happend, Nat.add_mul, Nat.one_mul, ← Nat.add_assoc]; exact hkeyRest)
      (by rw [happend, Nat.add_mul, Nat.one_mul, ← Nat.add_assoc]; exact hrest)
      (by rw [happend, Nat.add_assoc, Nat.add_comm 1]; exact hroom) (by omega)
      (fun other hother => hdepth other (by simp [hother]))
      (by rw [hadv.nodes_eq, hkeyed.nodes_eq]; dsimp only; omega)
      (by have := nodeCount_pos value; omega)
      (((hidle.advanced hkeyed).advanced hadv).mono (Nat.le_succ _))
    refine ⟨last, ?_, ?_⟩
    · rw [length_cons, plistDecodeEntries, checkedMul_eq (by simp only [sizeMax]; omega),
        pure_bind, checkedAdd_eq (by simp only [sizeMax]; omega), pure_bind, hkeyReference,
        pure_bind, checkedAdd_eq (by simp only [sizeMax]; omega), pure_bind,
        checkedAdd_eq (by simp only [sizeMax]; omega), pure_bind, hreference, pure_bind,
        run_bind_of_ok hkeyRun]
      simp only [airplayPlistGetString, hlookup, Option.isSome_none, Bool.false_eq_true, if_false]
      rw [run_bind_of_ok hrun, airplayPlistDictSet_of_absent value (by omega) hkey habsent]
      rw [happend, append_assoc] at hloop
      exact hloop
    · have htotal := (hkeyed.trans hadv).trans hfinal
      rw [length_cons, map_cons, sum_cons]
      convert htotal using 1
      omega

lemma decodesTo_of_alone (hcount : value.nodeCount = 1)
    (hlayout : ∀ base, layout base value = [.value value []])
    (halone : DecodesAlone context (.value value []) value) : DecodesTo context objects value := by
  intro objectId depth state hat hdepth hnodes hidle
  rw [hlayout] at hat
  rw [hcount] at hnodes ⊢
  exact plistDecodeObject_alone hdescribes hat.getElem? halone (by omega) (by omega) hidle

lemma decodesTo_array {items : List AirPlayPlistValue}
    (hlen : items.length ≤ airplayPlistMaxContainerItems)
    (hwell : ∀ item ∈ items, item.WellFormed) (ih : ∀ item ∈ items, DecodesTo context objects item) :
    DecodesTo context objects (.array items) := by
  intro objectId depth state hat hdepth hnodes hidle
  have hmax := hdescribes.valid.table_end_le
  simp only [airplayPlistMaxBytes] at hmax
  have hobj := hat.getElem?
  obtain ⟨-, -, hend, hchunk⟩ := hdescribes.located objectId _ hobj
  simp only [plistObjectBytes] at hend hchunk
  have hsize : items.length ≤ sizeMax := by
    simp only [airplayPlistMaxContainerItems] at hlen
    simp only [sizeMax]
    omega
  obtain ⟨marker, hmarker, hmark⟩ := plistDecodeMarked_of_at hdescribes.valid
    (show 0xa0 = 10 * 2 ^ 4 by rfl) (by omega) hsize hchunk hend
  rw [length_append, length_plistReferenceBytes, length_objectNumbers] at hend
  rw [nodeCount] at hnodes
  have hitems : ∀ item ∈ items, depth + 1 + item.height ≤ airplayPlistMaxDepth :=
    (depth_array_iff (by omega)).mpr hdepth
  obtain ⟨final, hloop, hadv⟩ := @plistDecodeItems_run context objects hdescribes
    (announcedOffset context objectId + (plistMarkerBytes 0xa0 items.length).length) (objectId + 1)
    depth items [] (state.enter objectId depth) hwell ih hat.tail
    (by rw [length_nil, Nat.zero_mul]; exact hchunk.right)
    (by rw [length_nil, Nat.zero_add]; omega) (by rw [length_nil]; omega) hitems
    (by rw [enter_decodedNodes]; omega) hidle.enter
  have hdispatch : plistDecodeMarked context
      (fun reference => plistDecodeObject context reference (depth + 1))
      (announcedOffset context objectId) marker.toNat (state.enter objectId depth) =
        .ok (.array items) final := by
    rw [hmark, plistDecodeSized, if_neg (by decide), if_neg (by decide), if_neg (by decide),
      if_pos rfl, if_neg (by omega), plistSizeMultiply_eq_some (by simp only [sizeMax]; omega)]
    dsimp only
    rw [checkedSub_eq (by omega), pure_bind, if_neg (by omega)]
    exact hloop
  obtain ⟨last, hrun, hfinal⟩ := plistDecodeObject_run hdescribes hobj (by omega) (by omega)
    (hidle objectId le_rfl) hmarker hdispatch hadv
  refine ⟨last, hrun, ?_⟩
  rw [nodeCount, Nat.add_comm 1]
  exact hfinal

lemma decodesTo_dict {entries : List (CString × AirPlayPlistValue)}
    (hlen : entries.length ≤ airplayPlistMaxContainerItems) (hnodup : (entries.map Prod.fst).Nodup)
    (hkeys : ∀ entry ∈ entries, (plistUtf8Measure entry.1).isSome)
    (hwell : ∀ entry ∈ entries, entry.2.WellFormed)
    (ih : ∀ entry ∈ entries, DecodesTo context objects entry.2) :
    DecodesTo context objects (.dict entries) := by
  intro objectId depth state hat hdepth hnodes hidle
  have hmax := hdescribes.valid.table_end_le
  simp only [airplayPlistMaxBytes] at hmax
  rw [layout, layoutEntries_eq, cons_append] at hat
  have hobj := hat.getElem?
  obtain ⟨-, -, hend, hchunk⟩ := hdescribes.located objectId _ hobj
  simp only [plistObjectBytes] at hend hchunk
  have hsize : entries.length ≤ sizeMax := by
    simp only [airplayPlistMaxContainerItems] at hlen
    simp only [sizeMax]
    omega
  obtain ⟨marker, hmarker, hmark⟩ := plistDecodeMarked_of_at hdescribes.valid
    (show 0xd0 = 13 * 2 ^ 4 by rfl) (by omega) hsize hchunk hend
  rw [length_append, length_plistReferenceBytes, length_append, length_range',
    length_objectNumbers, length_map, Nat.add_mul] at hend
  rw [nodeCount] at hnodes
  have hvalues : ∀ entry ∈ entries, depth + 1 + entry.2.height ≤ airplayPlistMaxDepth := by
    have hall := (@depth_dict_iff entries depth (by omega)).mpr hdepth
    rwa [forall_mem_map] at hall
  have hrefs := hchunk.right
  simp only [plistReferenceBytes, flatMap_append] at hrefs
  have hsnd := hrefs.right
  have hkeyBytes : ((range' (objectId + 1) entries.length).flatMap fun reference =>
      plistUintBytes reference context.referenceSize).length =
        entries.length * context.referenceSize := by
    have hlength := length_plistReferenceBytes context.referenceSize
      (range' (objectId + 1) entries.length)
    rwa [length_range'] at hlength
  rw [hkeyBytes] at hsnd
  have hvalueLayout := hat.tail.right
  rw [length_map] at hvalueLayout
  obtain ⟨final, hloop, hadv⟩ := @plistDecodeEntries_run context objects hdescribes
    (announcedOffset context objectId + (plistMarkerBytes 0xd0 entries.length).length)
    (entries.length * context.referenceSize) (objectId + 1) (objectId + 1 + entries.length)
    depth entries [] (state.enter objectId depth) hwell hkeys hnodup ih hat.tail.left hvalueLayout
    (by rw [length_nil, Nat.zero_mul]; exact hrefs.left)
    (by rw [length_nil, Nat.zero_mul]; exact hsnd)
    (by rw [length_nil, Nat.zero_add]) (by omega) (by rw [length_nil]; omega) hvalues
    (by rw [enter_decodedNodes]; omega) (Nat.le_add_right _ _) hidle.enter
  have hdispatch : plistDecodeMarked context
      (fun reference => plistDecodeObject context reference (depth + 1))
      (announcedOffset context objectId) marker.toNat (state.enter objectId depth) =
        .ok (.dict entries) final := by
    rw [hmark, plistDecodeSized, if_neg (by decide), if_neg (by decide), if_neg (by decide),
      if_neg (by decide), if_neg (by omega),
      plistSizeMultiply_eq_some (by simp only [sizeMax]; omega)]
    dsimp only
    rw [plistSizeMultiply_eq_some (by simp only [sizeMax]; omega)]
    dsimp only
    rw [checkedSub_eq (by omega), pure_bind, if_neg (by omega)]
    exact hloop
  obtain ⟨last, hrun, hfinal⟩ := plistDecodeObject_run hdescribes hobj (by omega) (by omega)
    (hidle objectId le_rfl) hmarker hdispatch hadv
  refine ⟨last, hrun, ?_⟩
  rw [nodeCount, Nat.add_assoc, Nat.add_comm 1]
  exact hfinal

/-- **Decoding inverts the layout.** -/
theorem decodesTo_of_wellFormed (h : value.WellFormed) :
    DecodesTo context objects value := by
  have hvalid := hdescribes.valid
  induction h with
  | bool value =>
    exact decodesTo_of_alone hdescribes (by simp [nodeCount]) (fun _ => by simp [layout])
      (decodesAlone_bool value [])
  | uint value =>
    exact decodesTo_of_alone hdescribes (by simp [nodeCount]) (fun _ => by simp [layout])
      (decodesAlone_uint hvalid value [])
  | real bits =>
    exact decodesTo_of_alone hdescribes (by simp [nodeCount]) (fun _ => by simp [layout])
      (decodesAlone_real hvalid bits [])
  | string htext =>
    exact decodesTo_of_alone hdescribes (by simp [nodeCount]) (fun _ => by simp [layout])
      (decodesAlone_string hvalid htext [])
  | data hlength =>
    exact decodesTo_of_alone hdescribes (by simp [nodeCount]) (fun _ => by simp [layout])
      (decodesAlone_data hvalid hlength [])
  | array hlen hitems ih => exact decodesTo_array hdescribes hlen hitems ih
  | dict hlen hnodup hkeys hvalues ih =>
    exact decodesTo_dict hdescribes hlen hnodup hkeys hvalues ih

end Runs

end NXCast
