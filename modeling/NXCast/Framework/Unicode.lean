import Mathlib.Algebra.Group.Nat.Defs
import Mathlib.Tactic.Common

/-!
# UTF-8 and UTF-16 as lists of scalar values

Lean's `Char` is a Unicode scalar value and `String.utf8EncodeChar` its UTF-8 form, so a text
is a `List Char` and its UTF-8 bytes are `Unicode.utf8`.  This file adds the UTF-16 side
(`Unicode.utf16Units`) and the arithmetic that a hand-written coder needs: which bit pattern
selects which sequence length, and how a shift-and-or accumulator adds up.
-/

namespace Unicode

open List

/-- The UTF-8 bytes of a text. -/
def utf8 (text : List Char) : List UInt8 := text.flatMap String.utf8EncodeChar

/-- The UTF-16 code units of one scalar value: itself, or a surrogate pair. -/
def utf16Units (c : Char) : List ℕ :=
  if c.toNat < 0x10000 then [c.toNat]
  else [0xd800 + (c.toNat - 0x10000) / 1024, 0xdc00 + (c.toNat - 0x10000) % 1024]

/-- The UTF-16 code units of a text. -/
def utf16 (text : List Char) : List ℕ := text.flatMap utf16Units

@[simp] lemma utf8_nil : utf8 [] = [] := rfl

@[simp] lemma utf8_cons (c : Char) (text : List Char) :
    utf8 (c :: text) = String.utf8EncodeChar c ++ utf8 text := rfl

@[simp] lemma utf16_nil : utf16 [] = [] := rfl

@[simp] lemma utf16_cons (c : Char) (text : List Char) :
    utf16 (c :: text) = utf16Units c ++ utf16 text := rfl

/-! ## Scalar values -/

lemma toNat_scalar (c : Char) : c.toNat < 0xd800 ∨ (0xdfff < c.toNat ∧ c.toNat < 0x110000) := by
  have hvalid := c.valid
  exact hvalid

lemma toNat_ofNat {n : ℕ} (h : n < 0xd800 ∨ (0xdfff < n ∧ n < 0x110000)) :
    (Char.ofNat n).toNat = n := by
  have hvalid : n.isValidChar := h
  rw [Char.ofNat, dif_pos hvalid]
  rfl

/-! ## Bit patterns of the UTF-8 lead and continuation bytes -/

lemma land_e0 {b : ℕ} (h : b < 256) : b &&& 0xe0 = 0xc0 ↔ 0xc0 ≤ b ∧ b < 0xe0 := by
  have hall : ∀ b : Fin 256, b.val &&& 0xe0 = 0xc0 ↔ 0xc0 ≤ b.val ∧ b.val < 0xe0 := by
    decide +kernel
  exact hall ⟨b, h⟩

lemma land_f0 {b : ℕ} (h : b < 256) : b &&& 0xf0 = 0xe0 ↔ 0xe0 ≤ b ∧ b < 0xf0 := by
  have hall : ∀ b : Fin 256, b.val &&& 0xf0 = 0xe0 ↔ 0xe0 ≤ b.val ∧ b.val < 0xf0 := by
    decide +kernel
  exact hall ⟨b, h⟩

lemma land_f8 {b : ℕ} (h : b < 256) : b &&& 0xf8 = 0xf0 ↔ 0xf0 ≤ b ∧ b < 0xf8 := by
  have hall : ∀ b : Fin 256, b.val &&& 0xf8 = 0xf0 ↔ 0xf0 ≤ b.val ∧ b.val < 0xf8 := by
    decide +kernel
  exact hall ⟨b, h⟩

lemma land_c0 {b : ℕ} (h : b < 256) : b &&& 0xc0 = 0x80 ↔ 0x80 ≤ b ∧ b < 0xc0 := by
  have hall : ∀ b : Fin 256, b.val &&& 0xc0 = 0x80 ↔ 0x80 ≤ b.val ∧ b.val < 0xc0 := by
    decide +kernel
  exact hall ⟨b, h⟩

lemma shiftLeft_or_of_lt (k : ℕ) {digit n : ℕ} (hn : n = 2 ^ k) (h : digit < n) (acc : ℕ) :
    acc <<< k ||| digit = acc * n + digit := by
  subst hn
  rw [← Nat.shiftLeft_add_eq_or_of_lt h, Nat.shiftLeft_eq]

lemma or_eq_add_of_lt (marker k : ℕ) {payload n : ℕ} (hn : n = 2 ^ k) (h : payload < n) :
    marker * n ||| payload = marker * n + payload := by
  rw [← shiftLeft_or_of_lt k hn h, Nat.shiftLeft_eq, hn]

/-! ## The four UTF-8 lengths -/

lemma utf8EncodeChar_one {c : Char} (h : c.toNat < 0x80) :
    String.utf8EncodeChar c = [UInt8.ofNat c.toNat] := by
  have h₁ : c.val.toNat ≤ 127 := Nat.le_of_lt_succ h
  simp only [String.utf8EncodeChar, if_pos h₁, Char.toNat]

lemma utf8EncodeChar_two {c : Char} (h : 0x80 ≤ c.toNat) (h' : c.toNat < 0x800) :
    String.utf8EncodeChar c =
      [UInt8.ofNat (c.toNat / 64 + 0xc0), UInt8.ofNat (c.toNat % 64 + 0x80)] := by
  have h₁ : ¬c.val.toNat ≤ 127 := Nat.not_le.mpr h
  have h₂ : c.val.toNat ≤ 2047 := Nat.le_of_lt_succ h'
  have hmod : c.val.toNat / 64 % 32 = c.val.toNat / 64 := Nat.mod_eq_of_lt (by omega)
  simp only [String.utf8EncodeChar, if_neg h₁, if_pos h₂, hmod, Char.toNat]

lemma utf8EncodeChar_three {c : Char} (h : 0x800 ≤ c.toNat) (h' : c.toNat < 0x10000) :
    String.utf8EncodeChar c =
      [UInt8.ofNat (c.toNat / 4096 + 0xe0), UInt8.ofNat (c.toNat / 64 % 64 + 0x80),
        UInt8.ofNat (c.toNat % 64 + 0x80)] := by
  have h₂ : ¬c.val.toNat ≤ 2047 := Nat.not_le.mpr h
  have h₁ : ¬c.val.toNat ≤ 127 := fun hle => h₂ (Nat.le_trans hle (by decide))
  have h₃ : c.val.toNat ≤ 65535 := Nat.le_of_lt_succ h'
  have hmod : c.val.toNat / 4096 % 16 = c.val.toNat / 4096 := Nat.mod_eq_of_lt (by omega)
  simp only [String.utf8EncodeChar, if_neg h₁, if_neg h₂, if_pos h₃, hmod, Char.toNat]

lemma utf8EncodeChar_four {c : Char} (h : 0x10000 ≤ c.toNat) :
    String.utf8EncodeChar c =
      [UInt8.ofNat (c.toNat / 262144 + 0xf0), UInt8.ofNat (c.toNat / 4096 % 64 + 0x80),
        UInt8.ofNat (c.toNat / 64 % 64 + 0x80), UInt8.ofNat (c.toNat % 64 + 0x80)] := by
  have hscalar : c.val.toNat < 0xd800 ∨ (0xdfff < c.val.toNat ∧ c.val.toNat < 0x110000) :=
    toNat_scalar c
  have h₃ : ¬c.val.toNat ≤ 65535 := Nat.not_le.mpr h
  have h₂ : ¬c.val.toNat ≤ 2047 := fun hle => h₃ (Nat.le_trans hle (by decide))
  have h₁ : ¬c.val.toNat ≤ 127 := fun hle => h₃ (Nat.le_trans hle (by decide))
  have hmod : c.val.toNat / 262144 % 8 = c.val.toNat / 262144 := Nat.mod_eq_of_lt (by omega)
  simp only [String.utf8EncodeChar, if_neg h₁, if_neg h₂, if_neg h₃, hmod, Char.toNat]

lemma utf8_length_cases (c : Char) :
    c.toNat < 0x80 ∨ (0x80 ≤ c.toNat ∧ c.toNat < 0x800) ∨
      (0x800 ≤ c.toNat ∧ c.toNat < 0x10000) ∨ 0x10000 ≤ c.toNat := by
  omega

lemma length_utf8EncodeChar_le (c : Char) :
    (String.utf8EncodeChar c).length ≤ 3 * (utf16Units c).length := by
  rcases utf8_length_cases c with h | ⟨h, h'⟩ | ⟨h, h'⟩ | h
  · simp [utf8EncodeChar_one h, utf16Units, show c.toNat < 0x10000 by omega]
  · simp [utf8EncodeChar_two h h', utf16Units, show c.toNat < 0x10000 by omega]
  · simp [utf8EncodeChar_three h h', utf16Units, h']
  · simp [utf8EncodeChar_four h, utf16Units, show ¬c.toNat < 0x10000 by omega]

lemma length_utf8_le (text : List Char) : (utf8 text).length ≤ 3 * (utf16 text).length := by
  induction text with
  | nil => simp
  | cons c text ih =>
    have hc := length_utf8EncodeChar_le c
    simp only [utf8_cons, utf16_cons, length_append]
    omega

lemma zero_mem_utf8EncodeChar {c : Char} : (0 : UInt8) ∈ String.utf8EncodeChar c ↔ c.toNat = 0 := by
  have hscalar := toNat_scalar c
  have hbyte : ∀ n : ℕ, n < 256 → ((0 : UInt8) = UInt8.ofNat n ↔ n = 0) := by
    intro n hn
    rw [← UInt8.toNat_inj, UInt8.toNat_ofNat', Nat.mod_eq_of_lt hn]
    exact ⟨(·.symm), (·.symm)⟩
  rcases utf8_length_cases c with h | ⟨h, h'⟩ | ⟨h, h'⟩ | h
  · simp only [utf8EncodeChar_one h, mem_singleton]
    exact hbyte _ (by omega)
  · simp only [utf8EncodeChar_two h h', mem_cons, not_mem_nil, or_false]
    rw [hbyte _ (by omega), hbyte _ (by omega)]
    omega
  · simp only [utf8EncodeChar_three h h', mem_cons, not_mem_nil, or_false]
    rw [hbyte _ (by omega), hbyte _ (by omega), hbyte _ (by omega)]
    omega
  · simp only [utf8EncodeChar_four h, mem_cons, not_mem_nil, or_false]
    rw [hbyte _ (by omega), hbyte _ (by omega), hbyte _ (by omega), hbyte _ (by omega)]
    omega

lemma zero_mem_utf8 {text : List Char} : (0 : UInt8) ∈ utf8 text ↔ ∃ c ∈ text, c.toNat = 0 := by
  simp [utf8, mem_flatMap, zero_mem_utf8EncodeChar]

end Unicode
