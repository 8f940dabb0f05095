import Mathlib.Data.List.Induction
import Mathlib.Tactic.Common

/-!
# What has happened

Past-time properties of a list of events, oldest first.  `Each P events` says `P` of every event
with the events in front of it; `Since events x P` says that `x` is among the events and none
with `P` has come behind it.  Both are decided event by event as the list grows at its end, and
that is how a run proves them.
-/

namespace Trace

open List

variable {α : Type*}

/-- Every event satisfies `P` with the events before it. -/
def Each (P : List α → α → Prop) (events : List α) : Prop :=
  ∀ before event after, events = before ++ event :: after → P before event

/-- `event` has happened, and nothing with `P` since. -/
def Since (events : List α) (event : α) (P : α → Prop) : Prop :=
  ∃ before after, events = before ++ event :: after ∧ ∀ later ∈ after, ¬P later

variable {P Q : List α → α → Prop} {p q : α → Prop} {events : List α} {event last : α}

lemma split_concat {before after : List α} :
    events ++ [last] = before ++ event :: after ↔
      (before = events ∧ event = last ∧ after = []) ∨
        ∃ after', after = after' ++ [last] ∧ events = before ++ event :: after' := by
  constructor
  · intro h
    induction after using reverseRecOn with
    | nil =>
      obtain ⟨hpre, hlast⟩ := append_inj' h rfl
      exact .inl ⟨hpre.symm, (singleton_inj.mp hlast).symm, rfl⟩
    | append_singleton after' other _ =>
      rw [← cons_append, ← append_assoc] at h
      obtain ⟨hevs, hlast⟩ := append_inj' h rfl
      exact .inr ⟨after', by rw [singleton_inj.mp hlast], hevs⟩
  · rintro (⟨rfl, rfl, rfl⟩ | ⟨after', rfl, rfl⟩)
    · rfl
    · rw [append_assoc, cons_append]

@[simp] lemma each_nil : Each P [] := by
  intro before event after h
  simp at h

@[simp] lemma each_concat : Each P (events ++ [last]) ↔ Each P events ∧ P events last := by
  constructor
  · intro h
    refine ⟨fun before event after hevs => ?_, h events last [] rfl⟩
    exact h before event (after ++ [last]) (by rw [hevs, append_assoc, cons_append])
  · rintro ⟨hevs, hlast⟩ before event after hsplit
    obtain ⟨rfl, rfl, rfl⟩ | ⟨after', rfl, hpre⟩ := split_concat.mp hsplit
    · exact hlast
    · exact hevs before event after' hpre

/-- Nothing with `p` has come behind. -/
lemma Since.append {more : List α} (h : Since events event p) (hmore : ∀ later ∈ more, ¬p later) :
    Since (events ++ more) event p := by
  obtain ⟨before, after, rfl, hafter⟩ := h
  refine ⟨before, after ++ more, by rw [append_assoc, cons_append], ?_⟩
  intro later hlater
  rcases mem_append.mp hlater with hlater | hlater
  · exact hafter later hlater
  · exact hmore later hlater

lemma Since.mem (h : Since events event p) : event ∈ events := by
  obtain ⟨before, after, rfl, -⟩ := h
  exact mem_append_right _ mem_cons_self

/-- Events of which `P` says nothing. -/
lemma Each.append {more : List α} (h : Each P events) (hmore : ∀ event ∈ more, ∀ before, P before event) :
    Each P (events ++ more) := by
  induction more generalizing events with
  | nil => rwa [append_nil]
  | cons first more ih =>
    rw [append_cons]
    apply ih
    · exact each_concat.mpr ⟨h, hmore first mem_cons_self events⟩
    · exact fun event hevent => hmore event (mem_cons_of_mem first hevent)

@[simp] lemma not_since_nil : ¬Since ([] : List α) event p := by
  rintro ⟨before, after, h, _⟩
  simp at h

/-- Either the new event is the one, or it came before and the new event is not with `p`. -/
@[simp] lemma since_concat :
    Since (events ++ [last]) event p ↔ event = last ∨ Since events event p ∧ ¬p last := by
  constructor
  · rintro ⟨before, after, hsplit, hafter⟩
    obtain ⟨_, rfl, _⟩ | ⟨after', rfl, hpre⟩ := split_concat.mp hsplit
    · exact .inl rfl
    refine .inr ⟨⟨before, after', hpre, fun later hlater => ?_⟩, ?_⟩
    · exact hafter later (mem_append_left _ hlater)
    · exact hafter last (mem_append_right _ (mem_singleton_self _))
  · rintro (rfl | ⟨⟨before, after, rfl, hafter⟩, hlast⟩)
    · exact ⟨events, [], rfl, nofun⟩
    refine ⟨before, after ++ [last], by rw [append_assoc, cons_append], ?_⟩
    intro later hlater
    obtain hlater | hlater := mem_append.mp hlater
    · exact hafter later hlater
    · rw [mem_singleton.mp hlater]
      exact hlast

end Trace
