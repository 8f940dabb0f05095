import Mathlib.Tactic.Common

/-!
# Runs of labelled steps

A system whose step is a function of the state and a label.  `Reachable step start ok` are the
states of the runs from `start` each of whose steps is as `ok` says; an invariant is proved of them
with `Reachable.invariant`, and a concrete run is shown to be one with `Along`.
-/

namespace Runs

variable {σ ℓ : Type*} (step : σ → ℓ → σ) (start : σ)

/-- A state that a run leads to, each of whose steps is as `ok` says. -/
inductive Reachable (ok : σ → ℓ → Prop) : σ → Prop where
  | start : Reachable ok start
  | step {s : σ} (label : ℓ) : Reachable ok s → ok s label → Reachable ok (step s label)

/-- Steps one after the other. -/
def run (s : σ) (labels : List ℓ) : σ := labels.foldl step s

/-- The steps of a run are as `ok` says. -/
def Along (ok : σ → ℓ → Prop) : σ → List ℓ → Prop
  | _, [] => True
  | s, label :: labels => ok s label ∧ Along ok (step s label) labels

variable {step start} {ok ok' : σ → ℓ → Prop} {s : σ} {labels : List ℓ}

/-- What holds at the start and is kept by every step holds of every state of the runs. -/
lemma Reachable.invariant {P : σ → Prop} (hstart : P start)
    (hstep : ∀ s label, P s → ok s label → P (step s label)) (h : Reachable step start ok s) :
    P s := by
  induction h with
  | start => exact hstart
  | step label _ hok ih => exact hstep _ label ih hok

lemma Reachable.mono (h : Reachable step start ok s) (hok : ∀ s label, ok s label → ok' s label) :
    Reachable step start ok' s := by
  induction h with
  | start => exact .start
  | step label _ hlabel ih => exact .step label ih (hok _ _ hlabel)

lemma Reachable.along (h : Reachable step start ok s) (hlabs : Along step ok s labels) :
    Reachable step start ok (run step s labels) := by
  induction labels generalizing s with
  | nil => exact h
  | cons label labels ih => exact ih (h.step label hlabs.1) hlabs.2

lemma Along.append {after : List ℓ} (hlabs : Along step ok s labels)
    (hafter : Along step ok (run step s labels) after) : Along step ok s (labels ++ after) := by
  induction labels generalizing s with
  | nil => exact hafter
  | cons label labels ih => exact ⟨hlabs.1, ih hlabs.2 hafter⟩

lemma Along.of_reachable (hlabs : Along step ok s labels)
    (h : Reachable step start (fun _ _ => True) s)
    (hstep : ∀ s, Reachable step start (fun _ _ => True) s → ∀ label, ok s label → ok' s label) :
    Along step ok' s labels := by
  induction labels generalizing s with
  | nil => trivial
  | cons label labels ih =>
    exact ⟨hstep s h label hlabs.1, ih hlabs.2 (h.step label trivial)⟩

lemma Reachable.run (h : Reachable step start (fun _ _ => True) s) (labels : List ℓ) :
    Reachable step start (fun _ _ => True) (run step s labels) := by
  induction labels generalizing s with
  | nil => exact h
  | cons label labels ih => exact ih (h.step label trivial)

end Runs
