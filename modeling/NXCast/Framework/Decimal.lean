import Mathlib.Data.Nat.Init
import Mathlib.Order.Nat
import Mathlib.Tactic.Common
import Mathlib.Tactic.Ring

/-!
# Decimal numerals as ASCII bytes

`Decimal.digits n` is what `%zu` prints and `Decimal.value` the number a string of digits
spells.  As in the big-endian case the recursion peels the last digit, which is the one both
a printer by repeated division and a reader by multiply-and-add handle at a step.

`Decimal.scaled places text` is the fraction `0.text` in units of `10⁻ᵖˡᵃᶜᵉˢ`, to the nearest one.
-/

namespace Decimal

open List

/-- The decimal numeral of `n`, without leading zeros. -/
def digits (n : ℕ) : List UInt8 :=
  if n < 10 then [UInt8.ofNat (0x30 + n)]
  else digits (n / 10) ++ [UInt8.ofNat (0x30 + n % 10)]
termination_by n
decreasing_by omega

/-- The number a string of digits spells, read on from `acc`. -/
def valueFrom (acc : ℕ) (text : List UInt8) : ℕ :=
  text.foldl (fun acc byte => acc * 10 + (byte.toNat - 0x30)) acc

/-- The number a string of digits spells. -/
def value (text : List UInt8) : ℕ := valueFrom 0 text

/-- A byte that is a digit. -/
def IsDigit (byte : UInt8) : Prop := 0x30 ≤ byte.toNat ∧ byte.toNat ≤ 0x39

instance : DecidablePred IsDigit := fun byte =>
  inferInstanceAs (Decidable (0x30 ≤ byte.toNat ∧ byte.toNat ≤ 0x39))

lemma toNat_digit {d : ℕ} (h : d < 10) : (UInt8.ofNat (0x30 + d)).toNat = 0x30 + d := by
  rw [UInt8.toNat_ofNat', Nat.mod_eq_of_lt (by omega)]

lemma isDigit_digit {d : ℕ} (h : d < 10) : IsDigit (UInt8.ofNat (0x30 + d)) := by
  unfold IsDigit
  rw [toNat_digit h]
  omega

lemma digits_ne_nil (n : ℕ) : digits n ≠ [] := by
  rw [digits]
  split <;> simp

lemma isDigit_of_mem_digits (n : ℕ) : ∀ byte ∈ digits n, IsDigit byte := by
  induction n using digits.induct with
  | case1 n h =>
    intro byte hbyte
    rw [digits, if_pos h, mem_singleton] at hbyte
    rw [hbyte]
    exact isDigit_digit h
  | case2 n h ih =>
    intro byte hbyte
    rw [digits, if_neg h, mem_append, mem_singleton] at hbyte
    rcases hbyte with hbyte | rfl
    · exact ih byte hbyte
    · exact isDigit_digit (Nat.mod_lt _ (by decide))

/-- **Round trip.** A printed number reads back. -/
lemma value_digits (n : ℕ) : value (digits n) = n := by
  induction n using digits.induct with
  | case1 n h =>
    rw [digits, if_pos h, value, valueFrom, foldl_cons, foldl_nil, toNat_digit h]
    omega
  | case2 n h ih =>
    rw [value, valueFrom] at ih
    rw [digits, if_neg h, value, valueFrom, foldl_append, ih, foldl_cons,
      foldl_nil, toNat_digit (Nat.mod_lt _ (by decide))]
    omega

lemma le_valueFrom (acc : ℕ) (text : List UInt8) : acc ≤ valueFrom acc text := by
  induction text generalizing acc with
  | nil => exact le_rfl
  | cons byte text ih =>
    refine le_trans ?_ (ih (acc * 10 + (byte.toNat - 0x30)))
    omega

lemma valueFrom_eq (acc : ℕ) (text : List UInt8) :
    valueFrom acc text = acc * 10 ^ text.length + value text := by
  induction text generalizing acc with
  | nil => simp [valueFrom, value]
  | cons byte text ih =>
    have hhead : value (byte :: text) = (byte.toNat - 0x30) * 10 ^ text.length + value text := by
      rw [← ih]
      simp [value, valueFrom]
    have hstep : valueFrom acc (byte :: text) = valueFrom (acc * 10 + (byte.toNat - 0x30)) text := rfl
    rw [hstep, ih, hhead, length_cons, Nat.pow_succ]
    ring

lemma value_append (front back : List UInt8) :
    value (front ++ back) = value front * 10 ^ back.length + value back := by
  rw [← valueFrom_eq, value, valueFrom, foldl_append]
  rfl

lemma value_lt {text : List UInt8} (h : ∀ byte ∈ text, IsDigit byte) :
    value text < 10 ^ text.length := by
  induction text with
  | nil => simp [value, valueFrom]
  | cons byte text ih =>
    have hbyte := h byte mem_cons_self
    have hrest := ih fun other hother => h other (.tail _ hother)
    have hdigit : value [byte] = byte.toNat - 0x30 := by simp [value, valueFrom]
    rw [← singleton_append, value_append, hdigit, length_append, length_singleton,
      Nat.add_comm 1, Nat.pow_succ]
    unfold IsDigit at hbyte
    have hle : (byte.toNat - 0x30) * 10 ^ text.length ≤ 9 * 10 ^ text.length :=
      Nat.mul_le_mul_right _ (by omega)
    omega

/-- The fraction `0.text` in units of the last of `places` places, to the nearest one. -/
def scaled (places : ℕ) (text : List UInt8) : ℕ :=
  (2 * 10 ^ places * value text + 10 ^ text.length) / (2 * 10 ^ text.length)

/-- Up to `places` digits there is nothing to round. -/
lemma scaled_short {places : ℕ} {text : List UInt8} (h : text.length ≤ places) :
    scaled places text = value text * 10 ^ (places - text.length) := by
  have hpos : 0 < 10 ^ text.length := Nat.pow_pos (by decide)
  have hplaces : 10 ^ places = 10 ^ (places - text.length) * 10 ^ text.length := by
    rw [← Nat.pow_add, Nat.sub_add_cancel h]
  have hsum : 2 * 10 ^ places * value text + 10 ^ text.length =
      10 ^ text.length + value text * 10 ^ (places - text.length) * (2 * 10 ^ text.length) := by
    rw [hplaces]
    ring
  rw [scaled, hsum, Nat.add_mul_div_right _ _ (by omega), Nat.div_eq_of_lt (by omega), Nat.zero_add]

/-- The digit behind the last place decides which way the fraction is rounded. -/
lemma scaled_long {places : ℕ} {front back : List UInt8} (hfront : front.length = places + 1)
    (hback : ∀ byte ∈ back, IsDigit byte) :
    scaled places (front ++ back) = (value front + 5) / 10 := by
  have hunit : 0 < 2 * 10 ^ places := Nat.mul_pos (by decide) (Nat.pow_pos (by decide))
  have hshift : 0 < 10 ^ back.length := Nat.pow_pos (by decide)
  have hlen : 10 ^ (front ++ back).length = 10 ^ places * 10 * 10 ^ back.length := by
    rw [length_append, hfront, Nat.pow_add, Nat.pow_succ]
  have hsum : 2 * 10 ^ places * value (front ++ back) + 10 ^ (front ++ back).length =
      2 * 10 ^ places * value back + 2 * 10 ^ places * (value front + 5) * 10 ^ back.length := by
    rw [hlen, value_append]
    ring
  have hbelow : 2 * 10 ^ places * value back / 10 ^ back.length < 2 * 10 ^ places :=
    Nat.div_lt_of_lt_mul (by
      rw [Nat.mul_comm (10 ^ back.length)]
      exact Nat.mul_lt_mul_of_pos_left (value_lt hback) hunit)
  have hdivisor : 2 * 10 ^ (front ++ back).length = 10 ^ back.length * (2 * 10 ^ places * 10) := by
    rw [hlen]
    ring
  rw [scaled, hsum, hdivisor, ← Nat.div_div_eq_div_mul, Nat.add_mul_div_right _ _ hshift,
    ← Nat.div_div_eq_div_mul, Nat.add_mul_div_left _ _ hunit, Nat.div_eq_of_lt hbelow, Nat.zero_add]

lemma length_digits_le {n k : ℕ} (hk : 0 < k) (h : n < 10 ^ k) : (digits n).length ≤ k := by
  induction n using digits.induct generalizing k with
  | case1 n hn =>
    rw [digits, if_pos hn]
    exact hk
  | case2 n hn ih =>
    obtain ⟨k, rfl⟩ := Nat.exists_eq_add_one_of_ne_zero (Nat.pos_iff_ne_zero.mp hk)
    have hpos : 0 < k := by
      rcases Nat.eq_zero_or_pos k with rfl | hpos
      · omega
      · exact hpos
    rw [digits, if_neg hn, length_append, length_singleton]
    have hrec := ih hpos (by omega)
    omega

end Decimal
