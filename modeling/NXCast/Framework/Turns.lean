import Mathlib.Data.List.Induction
import Mathlib.Tactic.Common

/-!
# Events that take turns

Among other events there are those that open something and those that close it: `turn event` is `true`
for the first and `false` for the second kind.  `after turn opened events` is whether something is open
behind the events, and `none` once a turn was missed.
-/

namespace Turns

open List Option

variable {α : Type*} (turn : α → Option Bool)

/-- One event. -/
def next (opened : Bool) (event : α) : Option Bool :=
  match turn event with
  | none => some opened
  | some opens => if opens = opened then none else some opens

/-- All events, one after the other. -/
def after (opened : Bool) (events : List α) : Option Bool := events.foldlM (next turn) opened

variable {turn} {opened : Bool} {event : α} {events : List α}

@[simp] lemma after_cons :
    after turn opened (event :: events) = (next turn opened event).bind fun opened =>
      after turn opened events := rfl

@[simp] lemma after_append (more : List α) :
    after turn opened (events ++ more) = (after turn opened events).bind fun opened =>
      after turn opened more := by
  rw [after, foldlM_append]
  rfl

lemma next_other (h : turn event = none) : next turn opened event = some opened := by
  simp [next, h]

lemma after_of_others (h : ∀ event ∈ events, turn event = none) :
    after turn opened events = some opened := by
  induction events with
  | nil => rfl
  | cons first events ih =>
    rw [after_cons, next_other (h first mem_cons_self)]
    exact ih fun event hevent => h event (mem_cons_of_mem first hevent)

/-- No turn was missed: the two kinds alternate, and an opening is left over if something is open. -/
lemma after_eq_some :
    after turn false events = some opened → ∃ count, events.filterMap turn =
      (replicate count [true, false]).flatten ++ if opened then [true] else [] := by
  induction events using reverseRecOn generalizing opened with
  | nil =>
    rintro h
    obtain rfl := some.inj h
    exact ⟨0, rfl⟩
  | append_singleton events last ih =>
    intro h
    rw [after_append] at h
    obtain ⟨before, hpre, hlast⟩ := bind_eq_some_iff.mp h
    obtain ⟨count, hcount⟩ := ih hpre
    rw [after_cons, bind_eq_some_iff] at hlast
    obtain ⟨behind, hnext, hbehind⟩ := hlast
    obtain rfl := some.inj hbehind
    rw [filterMap_append, hcount]
    unfold next at hnext
    cases hturn : turn last with
    | none =>
      rw [hturn] at hnext
      obtain rfl := some.inj hnext
      exact ⟨count, by simp [hturn]⟩
    | some opens =>
      rw [hturn] at hnext
      dsimp only at hnext
      split at hnext
      · cases hnext
      rename_i hother
      obtain rfl := some.inj hnext
      cases opens with
      | true =>
        obtain rfl : before = false := by simpa using Ne.symm hother
        exact ⟨count, by simp [hturn]⟩
      | false =>
        obtain rfl : before = true := by simpa using Ne.symm hother
        refine ⟨count + 1, ?_⟩
        rw [replicate_succ', flatten_append]
        simp [hturn]

lemma after_eq_some_false (h : after turn false events = some false) :
    ∃ count, events.filterMap turn = (replicate count [true, false]).flatten := by
  obtain ⟨count, hcount⟩ := after_eq_some h
  exact ⟨count, by simpa using hcount⟩

end Turns
