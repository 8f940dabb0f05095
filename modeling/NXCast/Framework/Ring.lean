import Mathlib.Data.List.Rotate
import Mathlib.Tactic.Common
import Mathlib.Tactic.SplitIfs

/-!
# A queue in a circular buffer

The elements of the queue are the `count` cells from `start` on, past the end of the buffer and
on from its beginning: the `window` of the buffer.  A buffer is read and written by copies of
straight pieces, so a window takes two of them; `fetch_eq_window` and `window_store` say that
the two pieces come to the window and to its extension.
-/

namespace Ring

open List

variable {α : Type}

/-- `items` copied to `memory` from `offset` on. -/
def copyIn (memory : List α) (offset : ℕ) (items : List α) : List α :=
  memory.take offset ++ items ++ memory.drop (offset + items.length)

/-- `count` cells of `memory` from `offset` on. -/
def copyOut (memory : List α) (offset count : ℕ) : List α := (memory.drop offset).take count

lemma length_copyIn {memory items : List α} {offset : ℕ}
    (hfit : offset + items.length ≤ memory.length) :
    (copyIn memory offset items).length = memory.length := by
  simp [copyIn]
  omega

lemma getElem?_copyIn {memory items : List α} {offset i : ℕ}
    (hfit : offset + items.length ≤ memory.length) :
    (copyIn memory offset items)[i]? =
      if offset ≤ i ∧ i < offset + items.length then items[i - offset]? else memory[i]? := by
  have htake : (memory.take offset).length = offset := length_take_of_le (by omega)
  rw [copyIn, append_assoc]
  by_cases hpre : i < offset
  · rw [getElem?_append_left (by omega), if_neg (by omega), getElem?_take_of_lt hpre]
  rw [getElem?_append_right (by omega), htake]
  by_cases hinside : i < offset + items.length
  · rw [getElem?_append_left (by omega), if_pos (by omega)]
  rw [getElem?_append_right (by omega), if_neg (by omega), getElem?_drop]
  congr 1
  omega

/-! ## Windows -/

/-- The `count` cells from `start` on, around the end. -/
def window (ring : List α) (start count : ℕ) : List α := (ring.rotate start).take count

variable {ring items : List α} {start count : ℕ}

lemma length_window (start : ℕ) (hcount : count ≤ ring.length) : (window ring start count).length = count := by
  simp [window, Nat.min_eq_left hcount]

lemma mod_length {i n : ℕ} (h : i < n + n) : i % n = if i < n then i else i - n := by
  split_ifs with hi
  · exact Nat.mod_eq_of_lt hi
  · rw [Nat.mod_eq_sub_mod (by omega), Nat.mod_eq_of_lt (by omega)]

lemma getElem?_window {i : ℕ} (hcount : count ≤ ring.length) (hi : i < count) :
    (window ring start count)[i]? = ring[(i + start) % ring.length]? := by
  rw [window, getElem?_take_of_lt hi, getElem?_rotate (by omega)]

lemma fetch_eq_window (hstart : start < ring.length) (hcount : count ≤ ring.length) :
    copyOut ring start (min (ring.length - start) count) ++
        copyOut ring 0 (count - min (ring.length - start) count) = window ring start count := by
  have hdrop : (ring.drop start).length = ring.length - start := length_drop
  rw [window, rotate_eq_drop_append_take hstart.le, take_append, copyOut, copyOut,
    hdrop, drop_zero, take_take]
  congr 1
  · rw [← hdrop, Nat.min_comm, ← take_eq_take_min]
  · congr 1
    omega

lemma window_drop (start : ℕ) {taken : ℕ} (htaken : taken ≤ count) (hcount : count ≤ ring.length) :
    window ring ((start + taken) % ring.length) (count - taken) =
      (window ring start count).drop taken := by
  have hrotated : taken ≤ (ring.rotate start).length := by
    rw [length_rotate]
    omega
  have hroom : count - taken ≤ ((ring.rotate start).drop taken).length := by
    rw [length_drop, length_rotate]
    omega
  rw [window, window, rotate_mod, ← rotate_rotate,
    rotate_eq_drop_append_take hrotated, take_append_of_le_length hroom,
    drop_take]

lemma window_take {taken : ℕ} (htaken : taken ≤ count) :
    window ring start taken = (window ring start count).take taken := by
  rw [window, window, take_take, Nat.min_eq_left htaken]

/-! ## Writing behind a window -/

/-- `items` copied to `ring` from `offset` on, around the end. -/
def store (ring : List α) (offset : ℕ) (items : List α) : List α :=
  copyIn (copyIn ring offset (items.take (min (ring.length - offset) items.length))) 0
    (items.drop (min (ring.length - offset) items.length))

section store

variable {offset : ℕ} (hoffset : offset < ring.length) (hitems : items.length ≤ ring.length)
include hoffset hitems

lemma length_store : (store ring offset items).length = ring.length := by
  have hfirst : (items.take (min (ring.length - offset) items.length)).length =
      min (ring.length - offset) items.length := length_take_of_le (Nat.min_le_right _ _)
  have hstraight : (copyIn ring offset
      (items.take (min (ring.length - offset) items.length))).length = ring.length :=
    length_copyIn (by omega)
  have hsnd : (items.drop (min (ring.length - offset) items.length)).length =
      items.length - min (ring.length - offset) items.length := length_drop
  rw [store, length_copyIn (by omega), hstraight]

/-- The cell `i` places behind `offset` gets the item of that place. -/
lemma getElem?_store {i : ℕ} (hi : i < ring.length) :
    (store ring offset items)[(i + offset) % ring.length]? =
      if i < items.length then items[i]? else ring[(i + offset) % ring.length]? := by
  have hfirst : (items.take (min (ring.length - offset) items.length)).length =
      min (ring.length - offset) items.length := length_take_of_le (Nat.min_le_right _ _)
  have hsnd : (items.drop (min (ring.length - offset) items.length)).length =
      items.length - min (ring.length - offset) items.length := length_drop
  have hstraight : (copyIn ring offset
      (items.take (min (ring.length - offset) items.length))).length = ring.length :=
    length_copyIn (by omega)
  have hmod := mod_length (i := i + offset) (n := ring.length) (by omega)
  rw [store, getElem?_copyIn (by omega), getElem?_copyIn (by omega), hfirst, hsnd, hmod]
  by_cases hwrap : i + offset < ring.length
  · simp only [if_pos hwrap]
    by_cases hitem : i < items.length
    · rw [if_neg (by omega), if_pos (by omega), if_pos hitem, getElem?_take_of_lt (by omega)]
      congr 1
      omega
    · rw [if_neg (by omega), if_neg (by omega), if_neg hitem]
  · simp only [if_neg hwrap]
    by_cases hitem : i < items.length
    · rw [if_pos (by omega), if_pos hitem, getElem?_drop]
      congr 1
      omega
    · rw [if_neg (by omega), if_neg (by omega), if_neg hitem]

end store

/-- **Writing** behind a window: where there is room the items are appended to it. -/
theorem window_store (start : ℕ) (hring : 0 < ring.length) (hroom : count + items.length ≤ ring.length) :
    window (store ring ((start + count) % ring.length) items) start (count + items.length) =
      window ring start count ++ items := by
  have hoffset : (start + count) % ring.length < ring.length := Nat.mod_lt _ hring
  have hlen : (store ring ((start + count) % ring.length) items).length = ring.length :=
    length_store hoffset (by omega)
  have hwindow := length_window start (show count ≤ ring.length by omega)
  apply ext_getElem?
  intro i
  by_cases hi : i < count + items.length
  · rw [getElem?_window (by omega) hi, hlen]
    by_cases hold : i < count
    · -- the cell is as many places behind the last one written as there is room left
      have hplace : (i + start) % ring.length =
          (i + (ring.length - count) + (start + count) % ring.length) % ring.length := by
        rw [Nat.add_mod_mod, show i + (ring.length - count) + (start + count) =
          i + start + ring.length by omega, Nat.add_mod_right]
      rw [hplace, getElem?_store hoffset (by omega) (by omega), if_neg (by omega), ← hplace,
        getElem?_append_left (by omega), getElem?_window (by omega) hold]
    · have hplace : (i + start) % ring.length =
          (i - count + (start + count) % ring.length) % ring.length := by
        rw [Nat.add_mod_mod, show i - count + (start + count) = i + start by omega]
      rw [hplace, getElem?_store hoffset (by omega) (by omega), if_pos (by omega),
        getElem?_append_right (by omega), hwindow]
  · have hleft : (window (store ring ((start + count) % ring.length) items) start
        (count + items.length)).length ≤ i := by
      rw [length_window _ (by omega)]
      omega
    have hright : (window ring start count ++ items).length ≤ i := by
      rw [length_append, hwindow]
      omega
    rw [getElem?_eq_none hleft, getElem?_eq_none hright]

end Ring
