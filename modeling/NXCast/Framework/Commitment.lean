import NXCast.Framework.Interleaving

/-!
# What a thread is committed to

`Thread.All` says of every section of a program that it is one of a kind.  A program is committed
to a kind of section if it comes to one whatever it reads and is answered: what it goes by has been
read before, and nothing that happens in between makes it turn back.

`Pool.Fits` relates what the calls of a pool are committed to to the shared state.  It holds
throughout a run in which a call commits itself only where it fits, and nobody takes the fit away
from a call that is committed (`Pool.Heeds`).
-/

namespace Interleaving

open Option

variable {σ α β γ κ : Type}

namespace Thread

/-- Every section of a program outside every lock and watched stretch is one of `Q`. -/
def All (Q : (σ → σ) → Prop) : Thread σ α → Prop
  | done _ => True
  | act effect next => Q effect ∧ ∀ s, (next s).All Q
  | ask next => ∀ answer, (next answer).All Q
  | _ => False

/-- Whatever is read and answered, the program comes to a section of `P`. -/
def Commits (P : (σ → σ) → Prop) : Thread σ α → Prop
  | done _ => False
  | act effect next => P effect ∨ ∀ s, (next s).Commits P
  | ask next => ∀ answer, (next answer).Commits P
  | lock next => next.Commits P
  | unlock next => next.Commits P
  | watch next => ∀ s, (next s).Commits P
  | unwatch next => next.Commits P

section All

variable {Q : (σ → σ) → Prop}

lemma All.pure (result : α) : All Q (Pure.pure result : Thread σ α) := trivial

lemma All.bind {t : Thread σ α} {k : α → Thread σ β} (h : t.All Q)
    (hk : ∀ result, (k result).All Q) : (t >>= k).All Q := by
  show (t.bind k).All Q
  induction t with
  | done result => exact hk result
  | act effect next ih => exact ⟨h.1, fun s => ih s (h.2 s)⟩
  | ask next ih => exact fun answer => ih answer (h answer)
  | lock | unlock | watch | unwatch => exact h.elim

lemma All.get (hid : Q id) (read : σ → α) : (Thread.get read).All Q := ⟨hid, fun _ => trivial⟩

lemma All.modify {effect : σ → σ} (h : Q effect) : (Thread.modify effect).All Q :=
  ⟨h, fun _ => trivial⟩

lemma All.atomic {body : σ → α × σ} (h : Q fun s => (body s).2) : (Thread.atomic body).All Q :=
  ⟨h, fun _ => trivial⟩

lemma All.answer : Thread.answer.All Q := fun _ => trivial

lemma All.ite {c : Prop} [Decidable c] {t t' : Thread σ α} (ht : c → t.All Q)
    (he : ¬c → t'.All Q) : (if c then t else t').All Q := by
  split_ifs with hc
  · exact ht hc
  · exact he hc

lemma All.keeps {good : σ → σ → Prop} {t : Thread σ α}
    (h : t.All fun effect => ∀ s, good s (effect s)) : t.Keeps good := by
  induction t with
  | done result => trivial
  | act effect next ih => exact fun s => ⟨h.1 s, ih s (h.2 s)⟩
  | ask next ih => exact fun answer => ih answer (h answer)
  | lock | unlock | watch | unwatch => exact h.elim

end All

end Thread

namespace Pool

variable {program : γ → Thread σ α} {p p' : Pool σ α γ}

/-! ## Runs of programs of one kind -/

/-- Every call has only sections of `Q` left. -/
def AllOf (Q : (σ → σ) → Prop) (p : Pool σ α γ) : Prop :=
  ∀ id c, p.calls id = some c → c.rest.All Q

lemma AllOf.initial (Q : (σ → σ) → Prop) (s : σ) : (initial s : Pool σ α γ).AllOf Q :=
  nofun

/-- A move is no section, or one of `Q`, and the section was next. -/
def SectionOrQuiet (Q : (σ → σ) → Prop) (p p' : Pool σ α γ) : Prop :=
  p'.state = p.state ∨ ∃ id c effect next, p.calls id = some c ∧ c.rest = .act effect next ∧
    Q effect ∧ p'.state = effect p.state

variable {Q : (σ → σ) → Prop}

lemma AllOf.withCall (h : p.AllOf Q) {id : ℕ} {entry : Option (Call σ α γ)}
    (hentry : ∀ c, entry = some c → c.rest.All Q) : (p.withCall id entry).AllOf Q := by
  intro other c hcall
  by_cases hother : other = id
  · rw [hother, withCall_calls_self] at hcall
    exact hentry c hcall
  · rw [withCall_calls_of_ne _ _ _ hother] at hcall
    exact h other c hcall

lemma AllOf.advance (h : p.AllOf Q) {id : ℕ} {c : Call σ α γ} {state : σ} {holder : Option ℕ}
    {mode : Mode} {rest : Thread σ α} (hrest : rest.All Q) :
    (p.advance id c state holder mode rest).AllOf Q := by
  intro other d hcall
  by_cases hother : other = id
  · rw [hother, advance_calls_self, some.injEq] at hcall
    rw [← hcall]
    exact hrest
  · rw [advance_calls_of_ne _ _ _ _ _ _ _ hother] at hcall
    exact h other d hcall

/-- **One move.** -/
lemma AllOf.step (h : p.AllOf Q) (hprogram : ∀ request, (program request).All Q) {label : Label γ}
    (hstep : p.step program label = some p') : p'.AllOf Q ∧ p.SectionOrQuiet Q p' := by
  cases label with
  | call id request =>
    rw [Pool.step] at hstep
    cases hcall : p.calls id with
    | some c =>
      rw [hcall] at hstep
      cases hstep
    | none =>
      simp only [hcall, some.injEq] at hstep
      rw [← hstep]
      refine ⟨h.withCall fun c hc => ?_, .inl rfl⟩
      rw [← some.inj hc]
      exact hprogram request
  | ret id =>
    rw [Pool.step] at hstep
    cases hcall : p.calls id with
    | none =>
      rw [hcall] at hstep
      cases hstep
    | some c =>
      simp only [hcall] at hstep
      split at hstep
      · rw [← some.inj hstep]
        exact ⟨h.withCall (by simp), .inl rfl⟩
      · cases hstep
  | run id answer =>
    rw [Pool.step] at hstep
    cases hcall : p.calls id with
    | none =>
      rw [hcall] at hstep
      cases hstep
    | some c =>
      simp only [hcall] at hstep
      have hall := h id c hcall
      unfold Pool.run at hstep
      cases hthr : c.rest with
      | done result =>
        rw [hthr] at hstep
        cases hstep
      | act effect next =>
        simp only [hthr, some.injEq] at hstep
        rw [hthr] at hall
        rw [← hstep]
        exact ⟨h.advance (hall.2 _), .inr ⟨id, c, effect, next, hcall, hthr, hall.1, rfl⟩⟩
      | ask next =>
        simp only [hthr, some.injEq] at hstep
        rw [hthr] at hall
        rw [← hstep]
        exact ⟨h.advance (hall answer), .inl rfl⟩
      | lock | unlock | watch | unwatch =>
        rw [hthr] at hall
        exact hall.elim

/-! ## Fits -/

variable (P : κ → (σ → σ) → Prop) (fits : κ → σ → Prop)

/-- What a call is committed to fits the state. -/
def Fits (p : Pool σ α γ) : Prop :=
  ∀ id c k, p.calls id = some c → c.rest.Commits (P k) → fits k p.state

/-- The call is committed. -/
def CommittedTo (k : κ) (id : ℕ) (p : Pool σ α γ) : Prop :=
  ∃ c, p.calls id = some c ∧ c.rest.Commits (P k)

/-- A move after which a call is newly committed leads where it fits, and one beside a committed call
leaves it its fit. -/
structure Heeds (p p' : Pool σ α γ) : Prop where
  begun : ∀ id k, p'.CommittedTo P k id → ¬p.CommittedTo P k id → fits k p'.state
  kept : ∀ id k, p'.CommittedTo P k id → p.CommittedTo P k id → fits k p.state →
    fits k p'.state

variable {P fits}

lemma Fits.initial (s : σ) : (initial s : Pool σ α γ).Fits P fits := nofun

lemma Fits.of_heeds (h : p.Fits P fits) (hheeds : p.Heeds P fits p') : p'.Fits P fits := by
  intro id c k hcall hcommits
  by_cases hpre : p.CommittedTo P k id
  · obtain ⟨d, hother, hcommitted⟩ := hpre
    exact hheeds.kept id k ⟨c, hcall, hcommits⟩ ⟨d, hother, hcommitted⟩ (h id d k hother hcommitted)
  · exact hheeds.begun id k ⟨c, hcall, hcommits⟩ hpre

/-- **A run** of programs of one kind whose moves heed what the calls are committed to: a property of
the state that every section of the kind keeps, if it fits when it is one that the calls commit
themselves to. -/
theorem Fits.of_run {inv : σ → Prop} {okay : Pool σ α γ → Label γ → Pool σ α γ → Prop}
    (hprogram : ∀ request, (program request).All Q)
    (hokay : ∀ p label p', okay p label p' → p.Heeds P fits p')
    (hinv : ∀ effect s, Q effect → (∀ k, P k effect → fits k s) → inv s → inv (effect s))
    (hrun : Run program okay p p') (hfits : p.Fits P fits) (hall : p.AllOf Q)
    (hstart : inv p.state) : inv p'.state := by
  suffices h : p'.Fits P fits ∧ p'.AllOf Q ∧ inv p'.state from h.2.2
  induction hrun with
  | refl => exact ⟨hfits, hall, hstart⟩
  | tail _ hmove ih =>
    obtain ⟨hfits, hall, hkept⟩ := ih
    obtain ⟨label, hstep, hlabel⟩ := hmove
    obtain ⟨hall', hsec⟩ := hall.step hprogram hstep
    refine ⟨hfits.of_heeds (hokay _ _ _ hlabel), hall', ?_⟩
    obtain hquiet | ⟨id, c, effect, next, hcall, hrest, heffect, hstate⟩ := hsec
    · rw [hquiet]
      exact hkept
    rw [hstate]
    refine hinv effect _ heffect (fun k hP => hfits id c k hcall ?_) hkept
    rw [hrest]
    exact .inl hP

end Pool

end Interleaving
