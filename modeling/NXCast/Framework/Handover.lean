import Mathlib.Data.Finset.Basic
import Mathlib.Data.List.Nodup
import Mathlib.Logic.Relation

/-!
# Handing a descriptor over

A worker opens descriptors, one at a time, and publishes each in a cell while it uses it.  A stopper takes
what the cell holds, waits for the worker to be gone and closes what it has taken.  Whoever empties the cell
owns the descriptor, and the other leaves it alone.  One more descriptor, `lent`, the worker only uses; the
stopper closes it last.

A number may be given again once it has been closed; `after` is what is open behind a history in which
nothing is used or closed that is not open.
-/

namespace Handover

open Option

/-- What is done to a descriptor. -/
inductive Event where
  | opened (fd : ℕ)
  | used (fd : ℕ)
  | closed (fd : ℕ)
deriving DecidableEq

/-- What is open next, unless the event is out of place. -/
def next (held : Finset ℕ) : Event → Option (Finset ℕ)
  | .opened fd => if fd ∈ held then none else some (insert fd held)
  | .used fd => if fd ∈ held then some held else none
  | .closed fd => if fd ∈ held then some (held.erase fd) else none

/-- What is open behind a history. -/
def after (history : List Event) : Option (Finset ℕ) := history.foldlM next ∅

lemma after_append {history : List Event} {held : Finset ℕ} (h : after history = some held) (event : Event) :
    after (history ++ [event]) = next held event := by
  unfold after at h ⊢
  rw [List.foldlM_append, h]
  simp

/-- Each opening but that of a descriptor that is open has had its closing. -/
lemma count_after {history : List Event} {held : Finset ℕ} (h : after history = some held) (fd : ℕ) :
    history.count (.opened fd) = history.count (.closed fd) + if fd ∈ held then 1 else 0 := by
  induction history using List.reverseRecOn generalizing held with
  | nil =>
    cases h
    rfl
  | append_singleton history event ih =>
    cases hpre : after history with
    | none =>
      rw [after, List.foldlM_append, show history.foldlM next ∅ = none from hpre] at h
      cases h
    | some before =>
      have hcounts := ih hpre
      rw [after_append hpre] at h
      cases event with
      | used other =>
        simp only [next, ite_none_right_eq_some, some_inj] at h
        simpa [h.2] using hcounts
      | opened other =>
        simp only [next, ite_none_left_eq_some, some_inj] at h
        obtain ⟨hnew, rfl⟩ := h
        by_cases hsame : other = fd
        · subst hsame
          simp [hcounts, hnew]
        · simp [hcounts, hsame, Ne.symm hsame]
      | closed other =>
        simp only [next, ite_none_right_eq_some, some_inj] at h
        obtain ⟨hold, rfl⟩ := h
        by_cases hsame : other = fd
        · subst hsame
          simp [hcounts, hold]
        · simp [hcounts, hsame, Ne.symm hsame]

/-- Nothing was used or closed that was not open; and everything that was opened has been closed, as often
as it was opened. -/
def ClosedOnce (history : List Event) : Prop :=
  after history = some ∅ ∧ ∀ fd, history.count (.opened fd) = history.count (.closed fd)

inductive Worker where
  | idle
  /-- Opened, and not published yet. -/
  | holding (fd : ℕ)
  | sharing (fd : ℕ)
  /-- Taken back from the cell. -/
  | owning (fd : ℕ)
  | gone
deriving DecidableEq

inductive Stopper where
  | before
  | taken (fd : Option ℕ)
  | joined (fd : Option ℕ)
deriving DecidableEq

structure State where
  worker : Worker
  stopper : Stopper
  cell : Option ℕ
  lent : Option ℕ
  history : List Event

open Worker

/-- The descriptor that the worker has in its hand. -/
def Worker.descriptor : Worker → Option ℕ
  | .holding fd | .sharing fd | .owning fd => some fd
  | _ => none

def Stopper.descriptor : Stopper → Option ℕ
  | .before => none
  | .taken fd | .joined fd => fd

namespace State

/-- An event of the history. -/
def log (s : State) (event : Event) : State := { s with history := s.history ++ [event] }

/-- A step of the worker or of the stopper. -/
inductive Step : State → State → Prop where
  | opens {s : State} {fd : ℕ} (hworker : s.worker = .idle) (hfresh : ∀ held ∈ after s.history, fd ∉ held) :
      Step s { s.log (.opened fd) with worker := .holding fd }
  | uses {s : State} {fd : ℕ} (hworker : s.worker.descriptor = some fd) : Step s (s.log (.used fd))
  | borrows {s : State} {fd : ℕ} (hworker : s.worker = .idle) (hlent : s.lent = some fd) :
      Step s (s.log (.used fd))
  | publishes {s : State} {fd : ℕ} (hworker : s.worker = .holding fd) :
      Step s { s with worker := .sharing fd, cell := some fd }
  | reclaims {s : State} {fd : ℕ} (hworker : s.worker = .sharing fd) (hcell : s.cell = some fd) :
      Step s { s with worker := .owning fd, cell := none }
  | leaves {s : State} {fd : ℕ} (hworker : s.worker = .sharing fd) (hcell : s.cell ≠ some fd) :
      Step s { s with worker := .idle }
  | closes {s : State} {fd : ℕ} (hworker : s.worker = .owning fd) :
      Step s { s.log (.closed fd) with worker := .idle }
  | exits {s : State} (hworker : s.worker = .idle) : Step s { s with worker := .gone }
  | takes {s : State} (hstopper : s.stopper = .before) :
      Step s { s with stopper := .taken s.cell, cell := none }
  | stops {s : State} {fd : ℕ} (hstopper : s.stopper = .taken (some fd)) : Step s (s.log (.used fd))
  | stopsLent {s : State} {taken : Option ℕ} {fd : ℕ} (hstopper : s.stopper = .taken taken)
      (hlent : s.lent = some fd) : Step s (s.log (.used fd))
  | joins {s : State} {taken : Option ℕ} (hstopper : s.stopper = .taken taken) (hworker : s.worker = .gone) :
      Step s { s with stopper := .joined taken }
  | closesTaken {s : State} {fd : ℕ} (hstopper : s.stopper = .joined (some fd)) :
      Step s { s.log (.closed fd) with stopper := .joined none }
  | closesLent {s : State} {fd : ℕ} (hstopper : s.stopper = .joined none) (hlent : s.lent = some fd) :
      Step s { s.log (.closed fd) with lent := none }

/-- The descriptor that the worker has to close. -/
def owned (s : State) : Option ℕ :=
  match s.worker with
  | .sharing fd => if s.cell = some fd then some fd else none
  | worker => worker.descriptor

/-- The descriptors that one of the two has to close. -/
def owners (s : State) : List ℕ := s.owned.toList ++ s.stopper.descriptor.toList ++ s.lent.toList

/-- What holds of the two at any time. -/
structure Sound (s : State) : Prop where
  held : after s.history = some s.owners.toFinset
  distinct : s.owners.Nodup
  published : ∀ fd, s.cell = some fd → s.worker = .sharing fd
  /-- What is no longer in the cell has been taken. -/
  taken : ∀ fd, s.worker = .sharing fd → s.cell = none → s.stopper = .taken (some fd)
  joined : ∀ fd, s.stopper = .joined fd → s.worker = .gone

lemma Sound.used {s : State} (h : s.Sound) {fd : ℕ} (hmem : fd ∈ s.owners) : (s.log (.used fd)).Sound := by
  refine { h with held := ?_ }
  change after (s.history ++ [.used fd]) = some s.owners.toFinset
  rw [after_append h.held, next, if_pos (List.mem_toFinset.mpr hmem)]

lemma Sound.mem_owners {s : State} (h : s.Sound) {fd : ℕ} (hwork : s.worker.descriptor = some fd) :
    fd ∈ s.owners := by
  have htaken := h.taken fd
  have hpub := h.published
  unfold owners owned
  cases hw : s.worker with
  | sharing other =>
    cases hcell : s.cell with
    | none => simp_all [descriptor, Stopper.descriptor]
    | some held => simp_all [descriptor]
  | idle | gone => simp [hw, descriptor] at hwork
  | holding other | owning other => simp_all [descriptor]

/-- **A step** of either keeps it. -/
lemma Sound.step {s s' : State} (h : s.Sound) (hstep : Step s s') : s'.Sound := by
  have hnext := after_append h.held
  obtain ⟨hheld, hdist, hpub, htaken, hjoin⟩ := id h
  cases hstep with
  | opens | closes =>
    constructor <;> simp_all [log, owners, owned, descriptor, next]
  | uses hwork => exact h.used (h.mem_owners hwork)
  | borrows hwork hlent => exact h.used (by simp [owners, hlent])
  | publishes | reclaims | exits =>
    constructor <;> simp_all [owners, owned, descriptor]
  | @leaves fd hwork hcell =>
    have hnone : s.cell = none := by
      cases hheld : s.cell with
      | none => rfl
      | some other =>
        obtain rfl := sharing.inj (hwork.symm.trans (hpub other hheld))
        exact absurd hheld hcell
    constructor <;> simp_all [owners, owned, descriptor]
  | takes hstop =>
    have hsame : owners { s with stopper := .taken s.cell, cell := none } = s.owners := by
      unfold owners owned
      cases hcell : s.cell with
      | none => cases s.worker <;> simp [hstop, Stopper.descriptor]
      | some fd => simp [hpub fd hcell, hstop, Stopper.descriptor]
    refine ⟨by rw [hsame]; exact hheld, hsame ▸ hdist, nofun, fun fd hwork _ => ?_, nofun⟩
    cases hcell : s.cell with
    | none => exact nomatch hstop.symm.trans (htaken fd hwork hcell)
    | some other => rw [sharing.inj (hwork.symm.trans (hpub other hcell))]
  | stops hstop => exact h.used (by simp [owners, Stopper.descriptor, hstop])
  | stopsLent hstop hlent => exact h.used (by simp [owners, hlent])
  | joins hstop hwork =>
    constructor <;> simp_all [owners, owned, Stopper.descriptor]
  | closesTaken | closesLent =>
    constructor <;> simp_all [log, owners, owned, descriptor, Stopper.descriptor, next]

lemma Sound.steps {s s' : State} (h : s.Sound) (hsteps : Relation.ReflTransGen Step s s') : s'.Sound := by
  induction hsteps with
  | refl => exact h
  | tail _ hstep ih => exact ih.step hstep

lemma Sound.closedOnce {s : State} (h : s.Sound) (hstop : s.stopper = .joined none)
    (hlent : s.lent = none) : ClosedOnce s.history := by
  have hwork := h.joined none hstop
  have hempty : after s.history = some ∅ := by
    simpa [owners, owned, hwork, hstop, hlent, descriptor, Stopper.descriptor] using h.held
  exact ⟨hempty, fun fd => by simpa using count_after hempty fd⟩

end State

end Handover
