import Mathlib.Data.List.Infix
import Mathlib.Tactic.Common

/-!
# Searching text and cutting it into lines

The searches of a C text module, over any alphabet: `first needle text` is the offset at which
`strstr` finds `needle`, `last x text` the one at which `strrchr` finds `x`, `cut x text` what lies
on either side of the place at which `memchr` finds `x`, and `lines nl text`
the pieces a scan for `nl` meets.  A terminated last line and an unterminated one are not told
apart, and an empty text has no line, so that `lines` is left inverse to writing every line with
its terminator.
-/

namespace TextSearch

open List

variable {α : Type} [DecidableEq α]

/-- The first place at which `needle` occurs. -/
def first (needle text : List α) : Option ℕ := text.tails.findIdx? fun rest => needle.isPrefixOf rest

/-- The last place at which `x` occurs. -/
def last (x : α) (text : List α) : Option ℕ :=
  (text.reverse.idxOf? x).map fun back => text.length - 1 - back

/-- What is in front of the first `x`, and what is behind it. -/
def cut (x : α) (text : List α) : Option (List α × List α) :=
  if x ∈ text then some (text.takeWhile (· ≠ x), (text.dropWhile (· ≠ x)).tail) else none

/-- The pieces between occurrences of `nl`. -/
def lines (nl : α) : List α → List (List α)
  | [] => []
  | x :: rest =>
    if x = nl then [] :: lines nl rest
    else match lines nl rest with
      | [] => [[x]]
      | line :: more => (x :: line) :: more

variable {text : List α}

/-- The first place is one at which `needle` begins, and at none before it does. -/
lemma first_eq_some_iff {needle : List α} (hne : needle ≠ []) {i : ℕ} :
    first needle text = some i ↔ needle <+: text.drop i ∧ ∀ j < i, ¬needle <+: text.drop j := by
  rw [first, findIdx?_eq_some_iff_getElem]
  constructor
  · rintro ⟨hi, hbegins, hpre⟩
    rw [getElem_tails, isPrefixOf_iff_prefix] at hbegins
    refine ⟨hbegins, fun j hj hfound => ?_⟩
    have hnot := hpre j hj
    rw [getElem_tails, isPrefixOf_iff_prefix] at hnot
    exact hnot hfound
  rintro ⟨hbegins, hpre⟩
  have hlen : i < text.length := by
    by_contra hge
    rw [drop_eq_nil_of_le (Nat.le_of_not_lt hge)] at hbegins
    exact hne (prefix_nil.mp hbegins)
  refine ⟨by rw [length_tails]; omega, ?_, fun j hj hfound => ?_⟩
  · rwa [getElem_tails, isPrefixOf_iff_prefix]
  · rw [getElem_tails, isPrefixOf_iff_prefix] at hfound
    exact hpre j hj hfound

omit [DecidableEq α] in
lemma prefix_drop_take {needle : List α} (hne : needle ≠ []) {n j : ℕ} :
    needle <+: (text.take n).drop j ↔ needle <+: text.drop j ∧ j + needle.length ≤ n := by
  rw [drop_take, prefix_take_iff]
  have hpos := length_pos_of_ne_nil hne
  exact and_congr_right fun _ => by omega

lemma first_take {needle : List α} (hne : needle ≠ []) {n i : ℕ} :
    first needle (text.take n) = some i ↔ first needle text = some i ∧ i + needle.length ≤ n := by
  rw [first_eq_some_iff hne, first_eq_some_iff hne]
  simp only [prefix_drop_take hne]
  constructor
  · rintro ⟨⟨hbegins, hle⟩, hpre⟩
    exact ⟨⟨hbegins, fun j hj hfound => hpre j hj ⟨hfound, by omega⟩⟩, hle⟩
  · rintro ⟨⟨hbegins, hpre⟩, hle⟩
    exact ⟨⟨hbegins, hle⟩, fun j hj hfound => hpre j hj hfound.1⟩

variable {x : α}

lemma last_append {front back : List α} (h : x ∉ back) :
    last x (front ++ x :: back) = some front.length := by
  have hidx : (front ++ x :: back).reverse.idxOf? x = some back.length := by
    rw [reverse_append, reverse_cons, append_assoc, singleton_append, idxOf?_eq_some_iff]
    refine ⟨by simp, by simp, fun j hj => ?_⟩
    rw [getElem_append_left (by simpa using hj)]
    intro heq
    exact h (mem_reverse.mp (heq ▸ getElem_mem _))
  rw [last, hidx, Option.map_some, length_append, length_cons]
  congr 1
  omega

lemma last_eq_none (h : x ∉ text) : last x text = none := by
  rw [last, idxOf?_eq_none_iff.mpr (by simpa using h)]
  rfl

omit [DecidableEq α] in
lemma exists_last (h : x ∈ text) : ∃ front back, text = front ++ x :: back ∧ x ∉ back := by
  obtain ⟨back, front, hsplit, hback⟩ := eq_append_cons_of_mem (mem_reverse.mpr h)
  refine ⟨front.reverse, back.reverse, ?_, fun hmem => hback (mem_reverse.mp hmem)⟩
  rw [← reverse_reverse text, hsplit, reverse_append, reverse_cons, append_assoc, singleton_append]

/-! ## Cutting -/

lemma cut_append_cons {front : List α} (h : x ∉ front) (back : List α) :
    cut x (front ++ x :: back) = some (front, back) := by
  have hfront : ∀ y ∈ front, (decide (y ≠ x)) = true := fun y hy =>
    decide_eq_true fun heq => h (heq ▸ hy)
  rw [cut, if_pos (by simp), takeWhile_append_of_pos hfront, dropWhile_append_of_pos hfront]
  simp

lemma cut_eq_none : cut x text = none ↔ x ∉ text := by
  rw [cut]
  split <;> simp_all

lemma cut_eq_some_iff {front back : List α} :
    cut x text = some (front, back) ↔ text = front ++ x :: back ∧ x ∉ front := by
  constructor
  · intro hcut
    have hmem : x ∈ text := by
      by_contra hnot
      rw [cut_eq_none.mpr hnot] at hcut
      cases hcut
    obtain ⟨front', back', rfl, hfront'⟩ := eq_append_cons_of_mem hmem
    rw [cut_append_cons hfront'] at hcut
    cases hcut
    exact ⟨rfl, hfront'⟩
  · rintro ⟨rfl, hfront⟩
    exact cut_append_cons hfront back

variable {nl : α}

lemma not_mem_of_mem_lines {line : List α} (h : line ∈ lines nl text) : nl ∉ line := by
  induction text generalizing line with
  | nil => exact absurd h not_mem_nil
  | cons x rest ih =>
    rw [lines] at h
    by_cases hx : x = nl
    · rw [if_pos hx, mem_cons] at h
      rcases h with rfl | h
      · exact not_mem_nil
      · exact ih h
    rw [if_neg hx] at h
    have hne : nl ≠ x := fun heq => hx heq.symm
    cases hrest : lines nl rest with
    | nil =>
      rw [hrest] at h
      rw [mem_singleton.mp h, mem_singleton]
      exact hne
    | cons line' more =>
      rw [hrest] at h ih
      rcases mem_cons.mp h with rfl | h
      · rw [mem_cons, not_or]
        exact ⟨hne, ih mem_cons_self⟩
      · exact ih (.tail _ h)

lemma lines_append_cons {line : List α} (h : nl ∉ line) (rest : List α) :
    lines nl (line ++ nl :: rest) = line :: lines nl rest := by
  induction line with
  | nil =>
    rw [nil_append, lines, if_pos rfl]
  | cons x line ih =>
    rw [mem_cons, not_or] at h
    rw [cons_append, lines, if_neg (Ne.symm h.1), ih h.2]

lemma lines_flatMap {contents : List (List α)} (h : ∀ line ∈ contents, nl ∉ line) :
    lines nl (contents.flatMap fun line => line ++ [nl]) = contents := by
  induction contents with
  | nil => rfl
  | cons line contents ih =>
    have hrest := ih fun other hother => h other (.tail _ hother)
    rw [flatMap_cons, append_assoc, singleton_append,
      lines_append_cons (h line mem_cons_self), hrest]

end TextSearch
