import Mathlib.Tactic.Common

/-!
# Pre- and postconditions for stateful programs that can stop

A program of type `EStateM ε σ α` runs from a state and ends with a value or a reason to
stop, and with a state in both cases.  `Triple P m Q E` is its total-correctness triple: from
every state in `P`, a run that returns ends in `Q` and a run that stops ends in `E`.

Programs that neither read nor change the state and always return are those equal to
`pure a`, so a fact of the form `m = pure a` is rewritten away rather than proved as a triple;
`run_bind_of_ok` is the step for a run whose first part is known.
-/

namespace Program

variable {ε σ α β : Type}

/-- `m`, run from a state satisfying `P`, returns in `Q` or stops in `E`. -/
def Triple (P : σ → Prop) (m : EStateM ε σ α) (Q : α → σ → Prop) (E : ε → σ → Prop) : Prop :=
  ∀ s, P s →
    match m s with
    | .ok a s' => Q a s'
    | .error e s' => E e s'

variable {f : α → EStateM ε σ β} {m : EStateM ε σ α}

lemma run_bind_of_ok {s s' : σ} {a : α} (h : m s = .ok a s') : (m >>= f) s = f a s' := by
  show (EStateM.bind m f) s = _
  simp [EStateM.bind, h]

lemma run_bind_eq_ok {s s'' : σ} {b : β} (h : (m >>= f) s = .ok b s'') :
    ∃ a s', m s = .ok a s' ∧ f a s' = .ok b s'' := by
  have hbind : (m >>= f) s = EStateM.bind m f s := rfl
  rw [hbind, EStateM.bind] at h
  cases hrun : m s with
  | ok a s' =>
    rw [hrun] at h
    exact ⟨a, s', rfl, h⟩
  | error e s' =>
    rw [hrun] at h
    cases h

variable {P P' : σ → Prop} {Q Q' : α → σ → Prop} {E E' : ε → σ → Prop}

lemma Triple.pure {a : α} (h : ∀ s, P s → Q a s) :
    Triple P (Pure.pure a : EStateM ε σ α) Q E := h

lemma Triple.throw {e : ε} (h : ∀ s, P s → E e s) :
    Triple P (throw e : EStateM ε σ α) Q E := h

/-- Sequencing: the first program's postcondition is the second one's precondition. -/
lemma Triple.bind {R : β → σ → Prop} (hm : Triple P m Q E) (hf : ∀ a, Triple (Q a) (f a) R E) :
    Triple P (m >>= f) R E := by
  intro s hs
  have hfirst := hm s hs
  show match (EStateM.bind m f) s with
    | .ok a s' => R a s'
    | .error e s' => E e s'
  unfold EStateM.bind
  cases hrun : m s with
  | ok a s' =>
    rw [hrun] at hfirst
    exact hf a s' hfirst
  | error e s' =>
    rw [hrun] at hfirst
    exact hfirst

lemma Triple.conseq (h : Triple P m Q E) (hP : ∀ s, P' s → P s) (hQ : ∀ a s, Q a s → Q' a s)
    (hE : ∀ e s, E e s → E' e s) : Triple P' m Q' E' := by
  intro s hs
  have hrun := h s (hP s hs)
  cases hres : m s with
  | ok a s' =>
    rw [hres] at hrun
    exact hQ a s' hrun
  | error e s' =>
    rw [hres] at hrun
    exact hE e s' hrun

lemma Triple.pre (h : Triple P m Q E) (hP : ∀ s, P' s → P s) : Triple P' m Q E :=
  h.conseq hP (fun _ _ hs => hs) fun _ _ hs => hs

lemma Triple.of_pre {p : Prop} (hp : ∀ s, P s → p) (h : p → Triple P m Q E) : Triple P m Q E :=
  fun s hs => h (hp s hs) s hs

lemma Triple.ite {c : Prop} [Decidable c] {m' : EStateM ε σ α} (ht : c → Triple P m Q E)
    (he : ¬c → Triple P m' Q E) : Triple P (if c then m else m') Q E := by
  split_ifs with hc
  · exact ht hc
  · exact he hc

lemma Triple.get : Triple P (get : EStateM ε σ σ) (fun a s => a = s ∧ P s) E :=
  fun _ hs => ⟨rfl, hs⟩

lemma Triple.modify {f : σ → σ} {Q : Unit → σ → Prop} (h : ∀ s, P s → Q () (f s)) :
    Triple P (modify f : EStateM ε σ Unit) Q E := h

/-- A program whose stop is looked at instead of passed on. -/
def attempt {ε' : Type} (m : EStateM ε σ α) : EStateM ε' σ (Except ε α) := fun s =>
  match m s with
  | .ok a s' => .ok (.ok a) s'
  | .error e s' => .ok (.error e) s'

lemma Triple.attempt {ε' : Type} {E' : ε' → σ → Prop} (h : Triple P m Q E) :
    Triple P (Program.attempt m : EStateM ε' σ (Except ε α))
      (fun result s => match result with
        | .ok a => Q a s
        | .error e => E e s) E' := by
  intro s hs
  have hrun := h s hs
  unfold Program.attempt
  cases hres : m s with
  | ok | error =>
    rw [hres] at hrun
    exact hrun

lemma Triple.of_ok (h : Triple P m Q E) {s s' : σ} {a : α} (hs : P s) (hrun : m s = .ok a s') :
    Q a s' := by
  have hpost := h s hs
  rw [hrun] at hpost
  exact hpost

/-! ## Programs that leave the state alone

`Quiet allowed m Q` says that `m` ignores the state: it is `pure a` for an `a` in `Q`, or stops
at once for an allowed reason.  Readers of an immutable input are quiet, and a quiet program
in front of another one is absorbed by `Triple.bind_quiet`. -/

variable {allowed : ε → Prop} {q q' : α → Prop}

/-- `m` returns a value in `q`, or stops for an allowed reason, without touching the state. -/
def Quiet (allowed : ε → Prop) (m : EStateM ε σ α) (q : α → Prop) : Prop :=
  (∃ a, m = Pure.pure a ∧ q a) ∨ ∃ e, m = MonadExcept.throw e ∧ allowed e

lemma Quiet.pure {a : α} (h : q a) : Quiet allowed (Pure.pure a : EStateM ε σ α) q :=
  .inl ⟨a, rfl, h⟩

lemma Quiet.throw {e : ε} (h : allowed e) : Quiet allowed (MonadExcept.throw e : EStateM ε σ α) q :=
  .inr ⟨e, rfl, h⟩

lemma throw_bind {e : ε} : (MonadExcept.throw e : EStateM ε σ α) >>= f = MonadExcept.throw e := rfl

lemma Quiet.bind {r : β → Prop} (hm : Quiet allowed m q) (hf : ∀ a, q a → Quiet allowed (f a) r) :
    Quiet allowed (m >>= f) r := by
  rcases hm with ⟨a, rfl, ha⟩ | ⟨e, rfl, he⟩
  · rw [pure_bind]
    exact hf a ha
  · rw [throw_bind]
    exact .throw he

lemma Quiet.ite {c : Prop} [Decidable c] {m' : EStateM ε σ α} (ht : c → Quiet allowed m q)
    (he : ¬c → Quiet allowed m' q) : Quiet allowed (if c then m else m') q := by
  split_ifs with hc
  · exact ht hc
  · exact he hc

lemma Triple.bind_quiet {R : β → σ → Prop} (hm : Quiet allowed m q)
    (hE : ∀ e s, allowed e → P s → E e s) (hf : ∀ a, q a → Triple P (f a) R E) :
    Triple P (m >>= f) R E := by
  rcases hm with ⟨a, rfl, ha⟩ | ⟨e, rfl, he⟩
  · rw [pure_bind]
    exact hf a ha
  · rw [throw_bind]
    exact .throw fun s hs => hE e s he hs

lemma Quiet.triple (hm : Quiet allowed m q) (hE : ∀ e s, allowed e → P s → E e s) :
    Triple P m (fun a s => q a ∧ P s) E := by
  rcases hm with ⟨a, rfl, ha⟩ | ⟨e, rfl, he⟩
  · exact .pure fun s hs => ⟨ha, hs⟩
  · exact .throw fun s hs => hE e s he hs

end Program
