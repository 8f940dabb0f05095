import NXCast.Framework.BigEndian
import NXCast.Framework.CString
import NXCast.Framework.Unicode

/-!
# The text layer of the property-list codec

`plistUtf8Next`, `plistUtf8Measure` and `plistUtf8Append` are the hand-written UTF-8 routines
of `plist.c`.  Text positions are suffixes of the byte string rather than indices into it, so
`plistUtf8Next` returns what is left instead of a new index; everything else follows the
source, including the order in which malformed sequences are refused.

The routines are then tied to `Unicode.utf8`: `plistUtf8Next_encode` and
`plistUtf8Next_eq_some` say that a step reads exactly one encoded scalar value, and
`plistUtf8Measure_eq_some_iff` that a C string passes the measure exactly when it is the
UTF-8 form of some text and both length limits hold.
-/

namespace NXCast

open Unicode List Option

/-! ## Limits -/

/-- `AIRPLAY_PLIST_MAX_BYTES` -/
def airplayPlistMaxBytes : ℕ := 1024 * 1024
/-- `AIRPLAY_PLIST_MAX_DEPTH` -/
def airplayPlistMaxDepth : ℕ := 32
/-- `AIRPLAY_PLIST_MAX_NODES` -/
def airplayPlistMaxNodes : ℕ := 4096
/-- `AIRPLAY_PLIST_MAX_CONTAINER_ITEMS` -/
def airplayPlistMaxContainerItems : ℕ := 1024
/-- `AIRPLAY_PLIST_MAX_STRING_BYTES` -/
def airplayPlistMaxStringBytes : ℕ := 64 * 1024
/-- `AIRPLAY_PLIST_MAX_DATA_BYTES` -/
def airplayPlistMaxDataBytes : ℕ := 512 * 1024

/-! ## Reading UTF-8 -/

/-- The continuation loop of `plist_utf8_next`: fold `count` continuation bytes into
`codepoint`, refusing any byte outside `10xxxxxx`. -/
def plistUtf8Continuation : ℕ → ℕ → List UInt8 → Option (ℕ × List UInt8)
  | 0, codepoint, text => some (codepoint, text)
  | _ + 1, _, [] => none
  | count + 1, codepoint, next :: text =>
    if next.toNat &&& 0xc0 ≠ 0x80 then none
    else plistUtf8Continuation count ((codepoint <<< 6) ||| (next.toNat &&& 0x3f)) text

/-- What the lead byte of a multi-byte sequence announces: its payload bits and the number of
continuation bytes. -/
def plistUtf8Lead (first : ℕ) : Option (ℕ × ℕ) :=
  if first &&& 0xe0 = 0xc0 then
    if first &&& 0x1f < 2 then none else some (first &&& 0x1f, 1)
  else if first &&& 0xf0 = 0xe0 then some (first &&& 0x0f, 2)
  else if first &&& 0xf8 = 0xf0 then
    if first &&& 0x07 > 4 then none else some (first &&& 0x07, 3)
  else none

/-- One step of the UTF-8 reader: the next scalar value and the text after it. -/
def plistUtf8Next : List UInt8 → Option (ℕ × List UInt8)
  | [] => none
  | first :: text =>
    if first.toNat < 0x80 then
      if first.toNat = 0 then none else some (first.toNat, text)
    else
      match plistUtf8Lead first.toNat with
      | none => none
      | some (payload, count) =>
        -- `continuation_count > length - position - 1`
        if count > text.length then none
        else
          match plistUtf8Continuation count payload text with
          | none => none
          | some (codepoint, rest) =>
            if (count = 2 ∧ codepoint < 0x800) ∨ (count = 3 ∧ codepoint < 0x10000) ∨
                codepoint > 0x10ffff ∨ (codepoint ≥ 0xd800 ∧ codepoint ≤ 0xdfff) then none
            else some (codepoint, rest)

variable {codepoint : ℕ} {rest text : List UInt8}

lemma plistUtf8Continuation_length {count : ℕ} {value : ℕ}
    (h : plistUtf8Continuation count codepoint text = some (value, rest)) :
    rest.length + count = text.length := by
  induction count generalizing codepoint text with
  | zero =>
    simp only [plistUtf8Continuation, some.injEq, Prod.mk.injEq] at h
    simp [h.2]
  | succ count ih =>
    cases text with
    | nil => simp [plistUtf8Continuation] at h
    | cons next text =>
      simp only [plistUtf8Continuation] at h
      split at h
      · cases h
      have := ih h
      simp only [length_cons]
      omega

lemma plistUtf8Next_length (h : plistUtf8Next text = some (codepoint, rest)) :
    rest.length < text.length := by
  cases text with
  | nil => simp [plistUtf8Next] at h
  | cons first text =>
    simp only [plistUtf8Next] at h
    split at h
    · split at h
      · cases h
      · simp only [some.injEq, Prod.mk.injEq] at h
        simp [h.2]
    split at h
    · cases h
    split at h
    · cases h
    split at h
    · cases h
    rename_i hcont
    have hlen := plistUtf8Continuation_length hcont
    split at h
    · cases h
    simp only [some.injEq, Prod.mk.injEq] at h
    rw [← h.2, length_cons]
    omega

/-- The counting loop of `plist_utf8_measure`. -/
def plistUtf8MeasureLoop (text : List UInt8) (units : ℕ) (ascii : Bool) : Option (ℕ × Bool) :=
  match text with
  | [] => some (units, ascii)
  | first :: tail =>
    match _h : plistUtf8Next (first :: tail) with
    | none => none
    | some (codepoint, rest) =>
      if units + (if codepoint ≥ 0x10000 then 2 else 1) > airplayPlistMaxStringBytes then none
      else
        plistUtf8MeasureLoop rest (units + if codepoint ≥ 0x10000 then 2 else 1)
          (ascii && decide (codepoint < 0x80))
termination_by text.length
decreasing_by exact plistUtf8Next_length _h

lemma plistUtf8MeasureLoop_of_next (h : plistUtf8Next text = some (codepoint, rest)) (units : ℕ)
    (ascii : Bool) :
    plistUtf8MeasureLoop text units ascii =
      if units + (if codepoint ≥ 0x10000 then 2 else 1) > airplayPlistMaxStringBytes then none
      else
        plistUtf8MeasureLoop rest (units + if codepoint ≥ 0x10000 then 2 else 1)
          (ascii && decide (codepoint < 0x80)) := by
  cases text with
  | nil => simp [plistUtf8Next] at h
  | cons first tail =>
    rw [plistUtf8MeasureLoop]
    split
    · rename_i hnone
      rw [h] at hnone
      cases hnone
    · rename_i hsome
      rw [h] at hsome
      obtain ⟨rfl, rfl⟩ := hsome
      rfl

lemma plistUtf8MeasureLoop_of_none {first : UInt8} {tail : List UInt8}
    (h : plistUtf8Next (first :: tail) = none) (units : ℕ) (ascii : Bool) :
    plistUtf8MeasureLoop (first :: tail) units ascii = none := by
  rw [plistUtf8MeasureLoop]
  split
  · rfl
  rename_i hsome
  rw [h] at hsome
  cases hsome

/-- `plist_utf8_measure`: the number of UTF-16 units and whether the text is all ASCII, for a
text within both length limits. -/
def plistUtf8Measure (text : CString) : Option (ℕ × Bool) :=
  if text.strlen > airplayPlistMaxStringBytes then none
  else
    match plistUtf8MeasureLoop text.bytes 0 true with
    | none => none
    | some (units, ascii) =>
      if !ascii ∧ units > airplayPlistMaxStringBytes / 2 then none else some (units, ascii)

/-! ## Writing UTF-8 -/

/-- `plist_utf8_append`: append one scalar value to `output`, whose capacity is `outputSize`. -/
def plistUtf8Append (output : List UInt8) (outputSize codepoint : ℕ) : Option (List UInt8) :=
  if codepoint = 0 ∨ codepoint > 0x10ffff ∨ (codepoint ≥ 0xd800 ∧ codepoint ≤ 0xdfff) then none
  else
    let required :=
      if codepoint < 0x80 then 1 else if codepoint < 0x800 then 2
      else if codepoint < 0x10000 then 3 else 4
    if output.length > outputSize ∨ required > outputSize - output.length then none
    else if required = 1 then some (output ++ [UInt8.ofNat codepoint])
    else if required = 2 then
      some (output ++ [UInt8.ofNat (0xc0 ||| (codepoint >>> 6)),
        UInt8.ofNat (0x80 ||| (codepoint &&& 0x3f))])
    else if required = 3 then
      some (output ++ [UInt8.ofNat (0xe0 ||| (codepoint >>> 12)),
        UInt8.ofNat (0x80 ||| ((codepoint >>> 6) &&& 0x3f)),
        UInt8.ofNat (0x80 ||| (codepoint &&& 0x3f))])
    else
      some (output ++ [UInt8.ofNat (0xf0 ||| (codepoint >>> 18)),
        UInt8.ofNat (0x80 ||| ((codepoint >>> 12) &&& 0x3f)),
        UInt8.ofNat (0x80 ||| ((codepoint >>> 6) &&& 0x3f)),
        UInt8.ofNat (0x80 ||| (codepoint &&& 0x3f))])

/-! ## One step reads one scalar value -/

lemma continuation_digit {n : ℕ} (h : n < 64) :
    (UInt8.ofNat (n + 0x80)).toNat &&& 0xc0 = 0x80 ∧
      (UInt8.ofNat (n + 0x80)).toNat &&& 0x3f = n := by
  have hbyte : (UInt8.ofNat (n + 0x80)).toNat = n + 0x80 := by
    rw [UInt8.toNat_ofNat', Nat.mod_eq_of_lt (by omega)]
  refine ⟨(land_c0 (by omega)).mpr (by omega), ?_⟩
  rw [Nat.and_two_pow_sub_one_eq_mod _ 6]
  omega

lemma plistUtf8Continuation_encode {count n : ℕ} (h : n < 64) (text : List UInt8) :
    plistUtf8Continuation (count + 1) codepoint (UInt8.ofNat (n + 0x80) :: text) =
      plistUtf8Continuation count (codepoint * 64 + n) text := by
  obtain ⟨hmark, hdigit⟩ := continuation_digit h
  rw [plistUtf8Continuation, if_neg (not_not.mpr hmark), hdigit, shiftLeft_or_of_lt 6 (n := 64) rfl h]

lemma plistUtf8Next_encode {c : Char} (hc : c.toNat ≠ 0) (rest : List UInt8) :
    plistUtf8Next (String.utf8EncodeChar c ++ rest) = some (c.toNat, rest) := by
  have hscalar := toNat_scalar c
  rcases utf8_length_cases c with h | ⟨h, h'⟩ | ⟨h, h'⟩ | h
  · have hfirst : (UInt8.ofNat c.toNat).toNat = c.toNat := by
      rw [UInt8.toNat_ofNat', Nat.mod_eq_of_lt (by omega)]
    simp only [utf8EncodeChar_one h, singleton_append, plistUtf8Next, hfirst, if_pos h, if_neg hc]
  · have hfirst : (UInt8.ofNat (c.toNat / 64 + 0xc0)).toNat = c.toNat / 64 + 0xc0 := by
      rw [UInt8.toNat_ofNat', Nat.mod_eq_of_lt (by omega)]
    have hlow : (c.toNat / 64 + 0xc0) &&& 0x1f = c.toNat / 64 := by
      rw [Nat.and_two_pow_sub_one_eq_mod _ 5]
      omega
    have hlead : plistUtf8Lead (c.toNat / 64 + 0xc0) = some (c.toNat / 64, 1) := by
      rw [plistUtf8Lead, if_pos ((land_e0 (by omega)).mpr (by omega)), hlow, if_neg (by omega)]
    have hvalue : c.toNat / 64 * 64 + c.toNat % 64 = c.toNat := by omega
    simp only [utf8EncodeChar_two h h', cons_append, nil_append,
      plistUtf8Next, hfirst, if_neg (show ¬c.toNat / 64 + 0xc0 < 0x80 by omega), hlead]
    rw [plistUtf8Continuation_encode (by omega), hvalue, plistUtf8Continuation, if_neg (by simp)]
    exact if_neg (by omega)
  · have hfirst : (UInt8.ofNat (c.toNat / 4096 + 0xe0)).toNat = c.toNat / 4096 + 0xe0 := by
      rw [UInt8.toNat_ofNat', Nat.mod_eq_of_lt (by omega)]
    have hlow : (c.toNat / 4096 + 0xe0) &&& 0x0f = c.toNat / 4096 := by
      rw [Nat.and_two_pow_sub_one_eq_mod _ 4]
      omega
    have hlead : plistUtf8Lead (c.toNat / 4096 + 0xe0) = some (c.toNat / 4096, 2) := by
      rw [plistUtf8Lead, if_neg (mt (land_e0 (by omega)).mp (by omega)),
        if_pos ((land_f0 (by omega)).mpr (by omega)), hlow]
    have hvalue : (c.toNat / 4096 * 64 + c.toNat / 64 % 64) * 64 + c.toNat % 64 = c.toNat := by
      omega
    simp only [utf8EncodeChar_three h h', cons_append, nil_append,
      plistUtf8Next, hfirst, if_neg (show ¬c.toNat / 4096 + 0xe0 < 0x80 by omega), hlead]
    rw [plistUtf8Continuation_encode (by omega), plistUtf8Continuation_encode (by omega),
      hvalue, plistUtf8Continuation, if_neg (by simp)]
    exact if_neg (by omega)
  · have hfirst : (UInt8.ofNat (c.toNat / 262144 + 0xf0)).toNat = c.toNat / 262144 + 0xf0 := by
      rw [UInt8.toNat_ofNat', Nat.mod_eq_of_lt (by omega)]
    have hlow : (c.toNat / 262144 + 0xf0) &&& 0x07 = c.toNat / 262144 := by
      rw [Nat.and_two_pow_sub_one_eq_mod _ 3]
      omega
    have hlead : plistUtf8Lead (c.toNat / 262144 + 0xf0) = some (c.toNat / 262144, 3) := by
      rw [plistUtf8Lead, if_neg (mt (land_e0 (by omega)).mp (by omega)),
        if_neg (mt (land_f0 (by omega)).mp (by omega)),
        if_pos ((land_f8 (by omega)).mpr (by omega)), hlow, if_neg (by omega)]
    have hvalue : ((c.toNat / 262144 * 64 + c.toNat / 4096 % 64) * 64 + c.toNat / 64 % 64) * 64 +
        c.toNat % 64 = c.toNat := by
      omega
    simp only [utf8EncodeChar_four h, cons_append, nil_append,
      plistUtf8Next, hfirst, if_neg (show ¬c.toNat / 262144 + 0xf0 < 0x80 by omega), hlead]
    rw [plistUtf8Continuation_encode (by omega), plistUtf8Continuation_encode (by omega),
      plistUtf8Continuation_encode (by omega), hvalue, plistUtf8Continuation, if_neg (by simp)]
    exact if_neg (by omega)

lemma plistUtf8Lead_eq_some {first payload count : ℕ} (hfirst : first < 256)
    (h : plistUtf8Lead first = some (payload, count)) :
    (count = 1 ∧ 2 ≤ payload ∧ payload < 32 ∧ first = payload + 0xc0) ∨
      (count = 2 ∧ payload < 16 ∧ first = payload + 0xe0) ∨
      (count = 3 ∧ payload ≤ 4 ∧ first = payload + 0xf0) := by
  unfold plistUtf8Lead at h
  simp only [land_e0 hfirst, land_f0 hfirst, land_f8 hfirst,
    Nat.and_two_pow_sub_one_eq_mod first 5, Nat.and_two_pow_sub_one_eq_mod first 4,
    Nat.and_two_pow_sub_one_eq_mod first 3] at h
  split at h
  · split at h
    · cases h
    · simp only [some.injEq, Prod.mk.injEq] at h
      omega
  split at h
  · simp only [some.injEq, Prod.mk.injEq] at h
    omega
  split at h
  · split at h
    · cases h
    · simp only [some.injEq, Prod.mk.injEq] at h
      omega
  · cases h

lemma plistUtf8Continuation_eq_some {count value : ℕ}
    (h : plistUtf8Continuation (count + 1) codepoint text = some (value, rest)) :
    ∃ n < 64, ∃ tail, text = UInt8.ofNat (n + 0x80) :: tail ∧
      plistUtf8Continuation count (codepoint * 64 + n) tail = some (value, rest) := by
  cases text with
  | nil => simp [plistUtf8Continuation] at h
  | cons next tail =>
    simp only [plistUtf8Continuation] at h
    split at h
    · cases h
    rename_i hmark
    have hnext := next.toNat_lt
    have hrange := (land_c0 hnext).mp (not_not.mp hmark)
    have hdigit : next.toNat &&& 0x3f = next.toNat - 0x80 := by
      rw [Nat.and_two_pow_sub_one_eq_mod _ 6]
      omega
    refine ⟨next.toNat - 0x80, by omega, tail, ?_, ?_⟩
    · rw [Nat.sub_add_cancel hrange.1, UInt8.ofNat_toNat]
    · rwa [hdigit, shiftLeft_or_of_lt 6 (n := 64) rfl (by omega)] at h

/-- What a successful step consumed is the UTF-8 form of a scalar value other than NUL. -/
lemma plistUtf8Next_eq_some (h : plistUtf8Next text = some (codepoint, rest)) :
    ∃ c : Char, c.toNat = codepoint ∧ c.toNat ≠ 0 ∧ text = String.utf8EncodeChar c ++ rest := by
  cases text with
  | nil => simp [plistUtf8Next] at h
  | cons first text =>
    have hbyte := first.toNat_lt
    simp only [plistUtf8Next] at h
    split at h
    · rename_i hascii
      split at h
      · cases h
      rename_i hzero
      simp only [some.injEq, Prod.mk.injEq] at h
      have hc : (Char.ofNat first.toNat).toNat = first.toNat :=
        toNat_ofNat (.inl (by omega))
      refine ⟨Char.ofNat first.toNat, hc.trans h.1, by rwa [hc], ?_⟩
      rw [utf8EncodeChar_one (by omega), hc, h.2, UInt8.ofNat_toNat]
      rfl
    split at h
    · cases h
    rename_i payload count hlead
    split at h
    · cases h
    split at h
    · cases h
    rename_i value tail hcont
    split at h
    · cases h
    rename_i hreject
    simp only [some.injEq, Prod.mk.injEq] at h
    obtain ⟨rfl, rfl⟩ := h
    have hc : (Char.ofNat value).toNat = value := toNat_ofNat (by omega)
    rw [← UInt8.ofNat_toNat (x := first)]
    rcases plistUtf8Lead_eq_some hbyte hlead with
      ⟨rfl, hlow, hhigh, hfirst⟩ | ⟨rfl, hhigh, hfirst⟩ | ⟨rfl, hhigh, hfirst⟩
    · obtain ⟨n, hn, _, rfl, hcont₁⟩ := plistUtf8Continuation_eq_some hcont
      simp only [plistUtf8Continuation, some.injEq, Prod.mk.injEq] at hcont₁
      obtain ⟨hvalue, rfl⟩ := hcont₁
      refine ⟨Char.ofNat value, hc, by omega, ?_⟩
      rw [utf8EncodeChar_two (by omega) (by omega), hc, hfirst,
        show value / 64 = payload by omega, show value % 64 = n by omega]
      rfl
    · obtain ⟨n, hn, _, rfl, hcont₁⟩ := plistUtf8Continuation_eq_some hcont
      obtain ⟨m, hm, _, rfl, hcont₂⟩ := plistUtf8Continuation_eq_some hcont₁
      simp only [plistUtf8Continuation, some.injEq, Prod.mk.injEq] at hcont₂
      obtain ⟨hvalue, rfl⟩ := hcont₂
      refine ⟨Char.ofNat value, hc, by omega, ?_⟩
      rw [utf8EncodeChar_three (by omega) (by omega), hc, hfirst,
        show value / 4096 = payload by omega, show value / 64 % 64 = n by omega,
        show value % 64 = m by omega]
      rfl
    · obtain ⟨n, hn, _, rfl, hcont₁⟩ := plistUtf8Continuation_eq_some hcont
      obtain ⟨m, hm, _, rfl, hcont₂⟩ := plistUtf8Continuation_eq_some hcont₁
      obtain ⟨k, hk, _, rfl, hcont₃⟩ := plistUtf8Continuation_eq_some hcont₂
      simp only [plistUtf8Continuation, some.injEq, Prod.mk.injEq] at hcont₃
      obtain ⟨hvalue, rfl⟩ := hcont₃
      refine ⟨Char.ofNat value, hc, by omega, ?_⟩
      rw [utf8EncodeChar_four (by omega), hc, hfirst,
        show value / 262144 = payload by omega, show value / 4096 % 64 = n by omega,
        show value / 64 % 64 = m by omega, show value % 64 = k by omega]
      rfl

/-! ## What the measure accepts -/

/-- Every scalar value of a text is ASCII. -/
def asciiText (text : List Char) : Bool := text.all fun c => decide (c.toNat < 0x80)

lemma units_increment (c : Char) :
    (utf16Units c).length = if c.toNat ≥ 0x10000 then 2 else 1 := by
  by_cases h : c.toNat < 0x10000
  · simp [utf16Units, h, Nat.not_le.mpr h]
  · simp [utf16Units, h, Nat.not_lt.mp h]

lemma plistUtf8MeasureLoop_utf8 (text : List Char) (hnul : ∀ c ∈ text, c.toNat ≠ 0)
    (units : ℕ) (ascii : Bool) (hunits : units + (utf16 text).length ≤ airplayPlistMaxStringBytes) :
    plistUtf8MeasureLoop (utf8 text) units ascii =
      some (units + (utf16 text).length, ascii && asciiText text) := by
  induction text generalizing units ascii with
  | nil => simp [plistUtf8MeasureLoop, asciiText]
  | cons c text ih =>
    have hnext := plistUtf8Next_encode (hnul c (by simp)) (utf8 text)
    rw [utf16_cons, length_append, units_increment] at hunits
    rw [utf8_cons, plistUtf8MeasureLoop_of_next hnext, if_neg (by omega),
      ih (fun d hd => hnul d (by simp [hd])) _ _ (by omega)]
    simp [utf16_cons, units_increment, asciiText, Nat.add_assoc, Bool.and_assoc]

lemma plistUtf8MeasureLoop_eq_some {bytes : List UInt8} {units units' : ℕ} {ascii ascii' : Bool}
    (h : plistUtf8MeasureLoop bytes units ascii = some (units', ascii'))
    (hunits : units ≤ airplayPlistMaxStringBytes) :
    ∃ text : List Char, bytes = utf8 text ∧ (∀ c ∈ text, c.toNat ≠ 0) ∧
      units' = units + (utf16 text).length ∧ ascii' = (ascii && asciiText text) ∧
      units' ≤ airplayPlistMaxStringBytes := by
  induction bytes, units, ascii using plistUtf8MeasureLoop.induct with
  | case1 units ascii =>
    simp only [plistUtf8MeasureLoop, some.injEq, Prod.mk.injEq] at h
    obtain ⟨rfl, rfl⟩ := h
    exact ⟨[], by simp [asciiText, hunits]⟩
  | case2 units ascii first tail hnone =>
    rw [plistUtf8MeasureLoop_of_none hnone] at h
    cases h
  | case3 units ascii first tail codepoint rest hnext hlimit =>
    simp only [dite_eq_ite] at hlimit
    rw [plistUtf8MeasureLoop_of_next hnext, if_pos hlimit] at h
    cases h
  | case4 units ascii first tail codepoint rest hnext hlimit ih =>
    simp only [dite_eq_ite] at hlimit ih
    rw [plistUtf8MeasureLoop_of_next hnext, if_neg hlimit] at h
    obtain ⟨text, rfl, hnul, hcount, hascii, hmax⟩ := ih h (Nat.le_of_not_lt hlimit)
    obtain ⟨c, rfl, hc, hbytes⟩ := plistUtf8Next_eq_some hnext
    refine ⟨c :: text, by rw [hbytes, utf8_cons], ?_, ?_, ?_, hmax⟩
    · intro d hd
      rcases mem_cons.mp hd with rfl | hd
      · exact hc
      · exact hnul d hd
    · rw [hcount, utf16_cons, length_append, units_increment]
      omega
    · simp [hascii, asciiText, Bool.and_assoc]

/-- **The measure accepts exactly the well-formed texts within the limits.** -/
theorem plistUtf8Measure_eq_some_iff (s : CString) (units : ℕ) (ascii : Bool) :
    plistUtf8Measure s = some (units, ascii) ↔
      ∃ text : List Char, s.bytes = utf8 text ∧
        s.strlen ≤ airplayPlistMaxStringBytes ∧
        units = (utf16 text).length ∧ ascii = asciiText text ∧
        units ≤ airplayPlistMaxStringBytes ∧
        (ascii = false → units ≤ airplayPlistMaxStringBytes / 2) := by
  constructor
  · intro h
    unfold plistUtf8Measure at h
    split at h
    · cases h
    rename_i hlen
    split at h
    · cases h
    rename_i hloop
    split at h
    · cases h
    rename_i hhalf
    obtain ⟨rfl, rfl⟩ := h
    obtain ⟨text, hbytes, _, hcount, hascii, hmax⟩ :=
      plistUtf8MeasureLoop_eq_some hloop (Nat.zero_le _)
    refine ⟨text, hbytes, Nat.le_of_not_lt hlen, by simpa using hcount,
      by simpa using hascii, hmax, ?_⟩
    intro hfalse
    simp only [hfalse] at hhalf
    simpa using hhalf
  · rintro ⟨text, hbytes, hlen, rfl, rfl, hmax, hhalf⟩
    have hnul : ∀ c ∈ text, c.toNat ≠ 0 := fun c hc hz =>
      s.nul_free (by rw [hbytes]; exact zero_mem_utf8.mpr ⟨c, hc, hz⟩)
    have hloop := plistUtf8MeasureLoop_utf8 text hnul 0 true (by omega)
    rw [plistUtf8Measure, if_neg (Nat.not_lt.mpr hlen), hbytes, hloop]
    simp only [Nat.zero_add, Bool.true_and]
    refine if_neg ?_
    rintro ⟨hascii, hover⟩
    have := hhalf (by simpa using hascii)
    omega

/-! ## What the append writes -/

/-- `plist_utf8_append` appends the UTF-8 form of the scalar value when it fits. -/
lemma plistUtf8Append_encode {c : Char} (hc : c.toNat ≠ 0) {output : List UInt8}
    {outputSize : ℕ} (hfit : output.length + (String.utf8EncodeChar c).length ≤ outputSize) :
    plistUtf8Append output outputSize c.toNat = some (output ++ String.utf8EncodeChar c) := by
  have hscalar := toNat_scalar c
  have hlow : ∀ n : ℕ, 0x80 ||| (n &&& 0x3f) = n % 64 + 0x80 := by
    intro n
    rw [Nat.and_two_pow_sub_one_eq_mod _ 6, or_eq_add_of_lt 2 6 (n := 64) rfl (Nat.mod_lt _ (by decide))]
    omega
  unfold plistUtf8Append
  rw [if_neg (by omega)]
  rcases utf8_length_cases c with h | ⟨h, h'⟩ | ⟨h, h'⟩ | h
  · rw [utf8EncodeChar_one h] at hfit ⊢
    simp only [length_cons, length_nil] at hfit
    simp only [if_pos h]
    rw [if_neg (by omega), if_pos trivial]
  · rw [utf8EncodeChar_two h h'] at hfit ⊢
    simp only [length_cons, length_nil] at hfit
    have hlead : 0xc0 ||| c.toNat >>> 6 = c.toNat / 64 + 0xc0 := by
      rw [Nat.shiftRight_eq_div_pow, or_eq_add_of_lt 6 5 (n := 32) rfl (by omega)]
      omega
    simp only [if_neg (Nat.not_lt.mpr h), if_pos h']
    rw [if_neg (by omega), if_neg (by omega), if_pos trivial, hlead, hlow]
  · rw [utf8EncodeChar_three h h'] at hfit ⊢
    simp only [length_cons, length_nil] at hfit
    have hlead : 0xe0 ||| c.toNat >>> 12 = c.toNat / 4096 + 0xe0 := by
      rw [Nat.shiftRight_eq_div_pow, or_eq_add_of_lt 14 4 (n := 16) rfl (by omega)]
      omega
    simp only [if_neg (show ¬c.toNat < 0x80 by omega), if_neg (Nat.not_lt.mpr h), if_pos h']
    rw [if_neg (by omega), if_neg (by omega), if_neg (by omega), if_pos trivial, hlead, hlow,
      hlow, Nat.shiftRight_eq_div_pow]
  · rw [utf8EncodeChar_four h] at hfit ⊢
    simp only [length_cons, length_nil] at hfit
    have hlead : 0xf0 ||| c.toNat >>> 18 = c.toNat / 262144 + 0xf0 := by
      rw [Nat.shiftRight_eq_div_pow, or_eq_add_of_lt 30 3 (n := 8) rfl (by omega)]
      omega
    simp only [if_neg (show ¬c.toNat < 0x80 by omega), if_neg (show ¬c.toNat < 0x800 by omega),
      if_neg (Nat.not_lt.mpr h)]
    rw [if_neg (by omega), if_neg (by omega), if_neg (by omega), if_neg (by omega), hlead, hlow,
      hlow, hlow, Nat.shiftRight_eq_div_pow, Nat.shiftRight_eq_div_pow]

end NXCast
