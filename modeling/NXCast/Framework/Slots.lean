import Mathlib.Algebra.BigOperators.Group.Finset.Basic
import Mathlib.Algebra.Order.BigOperators.Group.Finset
import Mathlib.Data.Fintype.BigOperators
import Mathlib.Tactic.Common

/-!
# Tables of slots

A table of fixed size whose entries are there or not: `slots : ι → Option α`.  `Slots.count p`
is the number of entries with a property; writing one entry changes it by what the old and the
new entry are worth (`count_update`), and the other lemmas are its cases.  `Slots.Distinct key`
says that no two entries have the same key, and `Slots.search` and `Slots.vacant` are the two
scans such a table is used with, from the first slot up.
-/

namespace Slots

open List Function Option

variable {ι α : Type} [Fintype ι]

/-- What an entry counts for. -/
def worth (p : α → Bool) (entry : Option α) : ℕ := if entry.any p then 1 else 0

/-- How many entries have a property. -/
def count (p : α → Bool) (slots : ι → Option α) : ℕ := ∑ i, worth p (slots i)

@[simp] lemma worth_none (p : α → Bool) : worth p none = 0 := rfl

lemma worth_some (p : α → Bool) (x : α) : worth p (some x) = if p x then 1 else 0 := rfl

@[simp] lemma worth_some_of_pos {p : α → Bool} {x : α} (h : p x = true) : worth p (some x) = 1 := by
  rw [worth_some, if_pos h]

@[simp] lemma worth_some_of_neg {p : α → Bool} {x : α} (h : p x = false) :
    worth p (some x) = 0 := by
  rw [worth_some, if_neg (by rw [h]; exact Bool.false_ne_true)]

variable {p : α → Bool} {slots : ι → Option α}

lemma count_none : count p (fun _ : ι => (none : Option α)) = 0 :=
  Finset.sum_eq_zero fun _ _ => rfl

lemma exists_of_count_pos (h : 0 < count p slots) : ∃ i x, slots i = some x ∧ p x = true := by
  obtain ⟨i, -, hworth⟩ := Finset.exists_ne_zero_of_sum_ne_zero (Nat.pos_iff_ne_zero.mp h)
  cases hslot : slots i with
  | none =>
    rw [hslot] at hworth
    exact absurd rfl hworth
  | some x =>
    refine ⟨i, x, hslot, ?_⟩
    by_contra hneg
    rw [hslot, worth_some, if_neg hneg] at hworth
    exact hworth rfl

lemma count_pos_of_mem {i : ι} {x : α} (h : slots i = some x) (hx : p x = true) :
    0 < count p slots := by
  have hle : worth p (slots i) ≤ count p slots :=
    Finset.single_le_sum (f := fun j => worth p (slots j)) (fun _ _ => Nat.zero_le _)
      (Finset.mem_univ i)
  rw [h, worth_some_of_pos hx] at hle
  exact hle

lemma count_le_card (p : α → Bool) (slots : ι → Option α) : count p slots ≤ Fintype.card ι := by
  have hworth : ∀ i ∈ Finset.univ, worth p (slots i) ≤ 1 := by
    intro i _
    unfold worth
    split
    · exact le_rfl
    · exact Nat.zero_le 1
  have hsum := Finset.sum_le_sum hworth
  rwa [← Finset.card_eq_sum_ones, Finset.card_univ] at hsum

variable [DecidableEq ι]

/-- **Writing one entry.** -/
lemma count_update (p : α → Bool) (slots : ι → Option α) (i : ι) (entry : Option α) :
    count p (update slots i entry) + worth p (slots i) = count p slots + worth p entry := by
  have hrest : ∑ j ∈ Finset.univ.erase i, worth p (update slots i entry j) =
      ∑ j ∈ Finset.univ.erase i, worth p (slots j) := by
    refine Finset.sum_congr rfl fun j hj => ?_
    rw [update_of_ne (Finset.ne_of_mem_erase hj)]
  have hnew := Finset.add_sum_erase Finset.univ
    (fun j => worth p (update slots i entry j)) (Finset.mem_univ i)
  have hold := Finset.add_sum_erase Finset.univ (fun j => worth p (slots j)) (Finset.mem_univ i)
  simp only [update_self] at hnew
  unfold count
  omega

lemma count_fill {i : ι} (h : slots i = none) (x : α) :
    count p (update slots i (some x)) = count p slots + worth p (some x) := by
  have hcount := count_update p slots i (some x)
  rwa [h, worth_none, add_zero] at hcount

lemma count_clear {i : ι} {x : α} (h : slots i = some x) :
    count p (update slots i none) + worth p (some x) = count p slots := by
  have hcount := count_update p slots i none
  rwa [h, worth_none, add_zero] at hcount

/-! ## Keys -/

/-- No two entries share a key. -/
def Distinct {κ : Type} (key : α → κ) (slots : ι → Option α) : Prop :=
  ∀ ⦃i j x y⦄, slots i = some x → slots j = some y → key x = key y → i = j

namespace Distinct

variable {κ : Type} {key : α → κ}

omit [Fintype ι] [DecidableEq ι] in
lemma none : Distinct key (fun _ : ι => (none : Option α)) :=
  nofun

omit [Fintype ι] in
lemma update (h : Distinct key slots) {i : ι} {x : α}
    (hkey : ∀ j y, j ≠ i → slots j = some y → key y ≠ key x) :
    Distinct key (update slots i (some x)) := by
  intro j k y z hj hk hyz
  rw [update_apply] at hj hk
  split at hj <;> split at hk
  · rename_i hji hki
    rw [hji, hki]
  · rename_i hji hki
    cases hj
    exact absurd hyz.symm (hkey k z hki hk)
  · rename_i hji hki
    cases hk
    exact absurd hyz (hkey j y hji hj)
  · exact h hj hk hyz

omit [Fintype ι] in
lemma replace (h : Distinct key slots) {i : ι} {x y : α} (hi : slots i = some x)
    (hkey : key y = key x) : Distinct key (Function.update slots i (some y)) :=
  h.update fun _ _ hj hz hzy => hj (h hz hi (hzy.trans hkey))

omit [Fintype ι] [DecidableEq ι] in
lemma of_keys {slots' : ι → Option α} (h : Distinct key slots)
    (hkeys : ∀ i y, slots' i = some y → ∃ x, slots i = some x ∧ key x = key y) :
    Distinct key slots' := by
  intro i j y z hi hj hyz
  obtain ⟨x, hx, hxy⟩ := hkeys i y hi
  obtain ⟨w, hw, hwz⟩ := hkeys j z hj
  exact h hx hw (hxy.trans (hyz.trans hwz.symm))

omit [Fintype ι] in
lemma clear (h : Distinct key slots) (i : ι) :
    Distinct key (Function.update slots i Option.none) := by
  intro j k y z hj hk hyz
  rw [update_apply] at hj hk
  split at hj
  · cases hj
  split at hk
  · cases hk
  · exact h hj hk hyz

end Distinct

/-! ## Scanning -/

section Scan

variable {n : ℕ} {table : Fin n → Option α}

/-- The first entry with a property, and where it is. -/
def search (p : α → Bool) (table : Fin n → Option α) : Option (Fin n × α) :=
  (List.finRange n).findSome? fun i => ((table i).filter p).map fun x => (i, x)

/-- The first empty slot. -/
def vacant (table : Fin n → Option α) : Option (Fin n) :=
  (List.finRange n).find? fun i => (table i).isNone

lemma search_some {i : Fin n} {x : α} (h : search p table = some (i, x)) :
    table i = some x ∧ p x = true := by
  obtain ⟨j, -, hj⟩ := exists_of_findSome?_eq_some h
  obtain ⟨y, hy, hpair⟩ := map_eq_some_iff.mp hj
  cases hpair
  exact filter_eq_some_iff.mp hy

lemma search_none (h : search p table = none) {i : Fin n} {x : α} (hi : table i = some x) :
    p x = false := by
  have hscan := findSome?_eq_none_iff.mp h i (mem_finRange i)
  rw [hi, map_eq_none_iff, filter_eq_none_iff] at hscan
  exact Bool.eq_false_iff.mpr (hscan x rfl)

lemma vacant_some {i : Fin n} (h : vacant table = some i) : table i = none :=
  isNone_iff_eq_none.mp (find?_some (p := fun i => (table i).isNone) h)

lemma vacant_none (h : vacant table = none) (i : Fin n) : ∃ x, table i = some x := by
  have hscan : ¬(table i).isNone = true := find?_eq_none.mp h i (mem_finRange i)
  cases hslot : table i with
  | none =>
    rw [hslot] at hscan
    exact absurd rfl hscan
  | some x => exact ⟨x, rfl⟩

end Scan

end Slots
