import Mathlib.Algebra.GroupWithZero.Nat
import Mathlib.Data.List.Induction
import Mathlib.Tactic.Common

/-!
# Fixed-width big-endian integers

`BigEndian.encode w n` is the `w`-byte big-endian form of `n`, truncated modulo `256 ^ w`;
`BigEndian.value` reads a byte string back as an unsigned integer.  The recursion peels the
*last* byte, because that is the digit both a shift-and-mask writer and a shift-and-or reader
handle one at a time; `value_append_singleton` is the step every round trip below runs on.
-/

namespace BigEndian

open List

/-- The `width` big-endian bytes of `n`, keeping the low `8 * width` bits. -/
def encode : ℕ → ℕ → List UInt8
  | 0, _ => []
  | width + 1, n => encode width (n / 256) ++ [UInt8.ofNat n]

/-- The unsigned integer a byte string spells. -/
def value (bytes : List UInt8) : ℕ :=
  bytes.foldl (fun acc byte => acc * 256 + byte.toNat) 0

@[simp] lemma length_encode (width n : ℕ) : (encode width n).length = width := by
  induction width generalizing n with
  | zero => rfl
  | succ width ih => simp [encode, ih]

@[simp] lemma value_nil : value [] = 0 := rfl

@[simp] lemma value_append_singleton (bytes : List UInt8) (byte : UInt8) :
    value (bytes ++ [byte]) = value bytes * 256 + byte.toNat := by
  simp [value]

/-- Reading back what was written keeps the low `8 * width` bits. -/
lemma value_encode_mod (width n : ℕ) : value (encode width n) = n % 256 ^ width := by
  induction width generalizing n with
  | zero => simp [encode, Nat.mod_one]
  | succ width ih =>
    have hlow : (UInt8.ofNat n).toNat = n % 256 := by simp
    rw [encode, value_append_singleton, ih, hlow, Nat.pow_succ, Nat.mul_comm (256 ^ width),
      Nat.mod_mul]
    omega

/-- **Round trip.** A number that fits its width survives. -/
lemma value_encode {width n : ℕ} (h : n < 256 ^ width) : value (encode width n) = n := by
  rw [value_encode_mod, Nat.mod_eq_of_lt h]

/-- A byte string spells a number below `256` to its length. -/
lemma value_lt (bytes : List UInt8) : value bytes < 256 ^ bytes.length := by
  induction bytes using reverseRecOn with
  | nil => simp
  | append_singleton bytes byte ih =>
    have hbyte : byte.toNat < 256 := byte.toNat_lt
    rw [value_append_singleton, length_append, length_singleton, Nat.pow_succ]
    omega

/-- **Round trip** the other way: a byte string is the big-endian form of what it spells. -/
lemma encode_value (bytes : List UInt8) : encode bytes.length (value bytes) = bytes := by
  induction bytes using reverseRecOn with
  | nil => rfl
  | append_singleton bytes byte ih =>
    have hbyte : byte.toNat < 256 := byte.toNat_lt
    have hhigh : (value bytes * 256 + byte.toNat) / 256 = value bytes := by omega
    have hlow : UInt8.ofNat (value bytes * 256 + byte.toNat) = byte := by
      apply UInt8.toNat_inj.mp
      rw [UInt8.toNat_ofNat']
      omega
    rw [value_append_singleton, length_append, length_singleton, encode, hhigh, hlow, ih]

lemma value_append (bytes more : List UInt8) :
    value (bytes ++ more) = value bytes * 256 ^ more.length + value more := by
  induction more using reverseRecOn with
  | nil => simp
  | append_singleton more byte ih =>
    rw [← append_assoc, value_append_singleton, ih, value_append_singleton,
      length_append, length_singleton, Nat.pow_succ, Nat.add_mul, Nat.mul_assoc,
      Nat.add_assoc]

lemma value_cons (byte : UInt8) (bytes : List UInt8) :
    value (byte :: bytes) = byte.toNat * 256 ^ bytes.length + value bytes := by
  have h := value_append [byte] bytes
  simpa [value] using h

/-- The bytes of the shift-and-truncate writer: byte `i` from the left holds bits
`8 * (width - 1 - i)` upwards. -/
lemma encode_eq_map (width n : ℕ) :
    encode width n = (range width).map fun i => UInt8.ofNat (n >>> (8 * (width - 1 - i))) := by
  induction width generalizing n with
  | zero => rfl
  | succ width ih =>
    rw [encode, ih, range_succ, map_append]
    congr 1
    · refine map_congr_left fun i hi => ?_
      have hlt : i < width := mem_range.mp hi
      have hshift : 8 * (width + 1 - 1 - i) = 8 + 8 * (width - 1 - i) := by omega
      rw [hshift, Nat.shiftRight_add, Nat.shiftRight_eq_div_pow n 8]
    · simp

end BigEndian
