import Mathlib.Algebra.BigOperators.Group.Finset.Basic
import Mathlib.Algebra.Order.Group.Multiset
import NXCast.Framework.Interleaving

/-!
# What threads hold

A thread between two of its sections may be responsible for something: a resource it has taken
out of the shared state, an acquisition it has not recorded yet.  `inv s all` is an invariant of
the state `s` and of everything that is held by some thread.  `Holds` follows one program
through the states the others may leave behind: what they hold is a multiset `others` about
which nothing is known but the invariant, and each section has to say what its thread holds
afterwards.  Since the holdings of all threads are added up, two threads never hold the same
thing if the invariant forbids duplicates.

`Pool.Held.of_run` puts the programs together; a pool in which every call has returned holds
nothing.
-/

namespace Interleaving

open Function Thread Option

open scoped BigOperators

variable {σ α β γ τ : Type} {inv : σ → Multiset τ → Prop} {ok : σ → σ → Prop}

/-- From holding `held`, a program keeps the invariant as long as its sections change the state
as in `ok`, and ends with `Post` of its result and its holdings. -/
def Holds (inv : σ → Multiset τ → Prop) (ok : σ → σ → Prop) (Post : α → Multiset τ → Prop) :
    Thread σ α → Multiset τ → Prop
  | .done result, held => Post result held
  | .act effect next, held =>
    ∀ s others, inv s (held + others) → ok s (effect s) →
      ∃ held', inv (effect s) (held' + others) ∧ Holds inv ok Post (next s) held'
  | .ask next, held => ∀ answer, Holds inv ok Post (next answer) held
  | _, _ => False

section Rules

variable {Post : α → Multiset τ → Prop} {held : Multiset τ}

lemma Holds.pure {result : α} (h : Post result held) :
    Holds inv ok Post (Pure.pure result : Thread σ α) held := h

lemma Holds.bind {P : α → Multiset τ → Prop} {Q : β → Multiset τ → Prop} {t : Thread σ α}
    {k : α → Thread σ β} (h : Holds inv ok P t held)
    (hk : ∀ result held', P result held' → Holds inv ok Q (k result) held') :
    Holds inv ok Q (t >>= k) held := by
  show Holds inv ok Q (t.bind k) held
  induction t generalizing held with
  | done result => exact hk result held h
  | act effect next ih =>
    intro s others hinv hok
    obtain ⟨held', hinv', hnext⟩ := h s others hinv hok
    exact ⟨held', hinv', ih s hnext⟩
  | ask next ih => exact fun answer => ih answer (h answer)
  | lock | unlock | watch | unwatch => exact h.elim

lemma Holds.seq {Q : β → Multiset τ → Prop} {t : Thread σ α} {k : α → Thread σ β}
    (h : Holds inv ok (fun _ held' => held' = held) t held)
    (hk : ∀ result, Holds inv ok Q (k result) held) : Holds inv ok Q (t >>= k) held := by
  refine h.bind fun result held' hheld => ?_
  rw [hheld]
  exact hk result

/-- **The frame rule.**  What a program does not use it leaves alone. -/
lemma Holds.frame {t : Thread σ α} (base : Multiset τ) (h : Holds inv ok Post t held) :
    Holds inv ok (fun result held' => ∃ rest, held' = rest + base ∧ Post result rest) t
      (held + base) := by
  induction t generalizing held with
  | done result => exact ⟨held, rfl, h⟩
  | act effect next ih =>
    intro s others hinv hok
    rw [add_assoc] at hinv
    obtain ⟨held', hinv', hnext⟩ := h s (base + others) hinv hok
    refine ⟨held' + base, ?_, ih s hnext⟩
    rwa [add_assoc]
  | ask next ih => exact fun answer => ih answer (h answer)
  | lock | unlock | watch | unwatch => exact h.elim

lemma Holds.ite {c : Prop} [Decidable c] {t t' : Thread σ α}
    (ht : c → Holds inv ok Post t held) (he : ¬c → Holds inv ok Post t' held) :
    Holds inv ok Post (if c then t else t') held := by
  split_ifs with hc
  · exact ht hc
  · exact he hc

lemma Holds.answer : Holds inv ok (fun _ held' => held' = held) answer held :=
  fun _ => rfl

lemma Holds.get {read : σ → α} : Holds inv ok (fun _ held' => held' = held) (get read) held :=
  fun _ _ hinv _ => ⟨held, hinv, rfl⟩

lemma Holds.modify {effect : σ → σ} (h : ∀ s all, inv s all → inv (effect s) all) :
    Holds inv ok (fun _ held' => held' = held) (modify effect) held :=
  fun s others hinv _ => ⟨held, h s (held + others) hinv, rfl⟩

lemma Holds.atomic_keeps {body : σ → α × σ} (h : ∀ s all, inv s all → inv (body s).2 all) :
    Holds inv ok (fun _ held' => held' = held) (atomic body) held :=
  fun s others hinv _ => ⟨held, h s (held + others) hinv, rfl⟩

lemma Holds.atomic {body : σ → α × σ} (h : ∀ s others, inv s (held + others) → ok s (body s).2 →
      ∃ held', inv (body s).2 (held' + others) ∧ Post (body s).1 held') :
    Holds inv ok Post (atomic body) held :=
  fun s others hinv hok => h s others hinv hok

end Rules

namespace Pool

variable {permitted : σ → σ → σ → Prop} {callable : γ → Prop} {program : γ → Thread σ α}
  {p p' : Pool σ α γ}

/-- The invariant holds with what the calls hold, each of which goes on as it may.  A call whose
sections are `permitted` may refer to the state it began in. -/
def Held (inv : σ → Multiset τ → Prop) (permitted : σ → σ → σ → Prop) (p : Pool σ α γ) : Prop :=
  ∃ (hold : ℕ → Multiset τ) (ids : Finset ℕ), (∀ id, id ∉ ids → hold id = 0) ∧
    inv p.state (∑ id ∈ ids, hold id) ∧
    ∀ id, match p.calls id with
      | none => hold id = 0
      | some c => Holds inv (permitted c.start) (fun _ held => held = 0) c.rest (hold id)

/-- Only callable calls are made, and the move of a call is permitted. -/
structure Permits (callable : γ → Prop) (permitted : σ → σ → σ → Prop) (p : Pool σ α γ)
    (label : Label γ) (p' : Pool σ α γ) : Prop where
  callable : ∀ id request, label = .call id request → callable request
  permitted : ∀ id answer c, label = .run id answer → p.calls id = some c →
    permitted c.start p.state p'.state

lemma Held.initial {s : σ} (h : inv s 0) : (initial s : Pool σ α γ).Held inv permitted :=
  ⟨fun _ => 0, ∅, fun _ _ => rfl, h, fun _ => rfl⟩

lemma Held.of_quiescent (h : p.Held inv permitted) (hquiescent : p.Quiescent) : inv p.state 0 := by
  obtain ⟨hold, ids, -, hinv, hcalls⟩ := h
  have hzero : ∑ id ∈ ids, hold id = 0 := by
    refine Finset.sum_eq_zero fun id _ => ?_
    have hcall := hcalls id
    rw [hquiescent id] at hcall
    exact hcall
  rwa [hzero] at hinv

lemma Held.exists_inv (h : p.Held inv permitted) : ∃ all, inv p.state all := by
  obtain ⟨hold, ids, -, hinv, -⟩ := h
  exact ⟨_, hinv⟩

lemma sum_insert_hold {hold : ℕ → Multiset τ} {ids : Finset ℕ}
    (hids : ∀ id, id ∉ ids → hold id = 0) (id : ℕ) :
    ∑ other ∈ ids, hold other = hold id + ∑ other ∈ ids.erase id, hold other := by
  by_cases hmem : id ∈ ids
  · exact (Finset.add_sum_erase ids hold hmem).symm
  · rw [hids id hmem, zero_add, Finset.erase_eq_of_notMem hmem]

lemma Held.advance {hold : ℕ → Multiset τ} {ids : Finset ℕ} (hids : ∀ id, id ∉ ids → hold id = 0)
    (hcalls : ∀ id, match p.calls id with
      | none => hold id = 0
      | some c => Holds inv (permitted c.start) (fun _ held => held = 0) c.rest (hold id))
    {id : ℕ} {entry : Option (Call σ α γ)} {state : σ} {holder : Option ℕ} {held : Multiset τ}
    (hinv : inv state (held + ∑ other ∈ ids.erase id, hold other))
    (hentry : match entry with
      | none => held = 0
      | some c => Holds inv (permitted c.start) (fun _ held => held = 0) c.rest held) :
    (⟨state, holder, update p.calls id entry⟩ : Pool σ α γ).Held inv permitted := by
  refine ⟨update hold id held, insert id ids, ?_, ?_, ?_⟩
  · intro other hother
    rw [Finset.mem_insert, not_or] at hother
    rw [update_of_ne hother.1]
    exact hids other hother.2
  · have hsum : ∑ other ∈ insert id ids, update hold id held other =
        held + ∑ other ∈ ids.erase id, hold other := by
      rw [← Finset.add_sum_erase _ _ (Finset.mem_insert_self id ids), update_self,
        Finset.erase_insert_eq_erase]
      refine congrArg _ (Finset.sum_congr rfl fun other hother => ?_)
      exact update_of_ne (Finset.ne_of_mem_erase hother) _ _
    rw [hsum]
    exact hinv
  · intro other
    by_cases hother : other = id
    · subst hother
      simp only [update_self]
      exact hentry
    · simp only [update_of_ne hother]
      exact hcalls other

/-- **One move** keeps the invariant. -/
lemma Held.step (h : p.Held inv permitted) (hprogram : ∀ request, callable request → ∀ s,
      Holds inv (permitted s) (fun _ held => held = 0) (program request) 0)
    {label : Label γ} (hstep : p.step program label = some p')
    (hpermits : p.Permits callable permitted label p') : p'.Held inv permitted := by
  obtain ⟨hold, ids, hids, hinv, hcalls⟩ := h
  cases label with
  | call id request =>
    rw [Pool.step] at hstep
    cases hcall : p.calls id with
    | some c =>
      rw [hcall] at hstep
      cases hstep
    | none =>
      simp only [hcall, some.injEq] at hstep
      have hzero := hcalls id
      rw [hcall] at hzero
      rw [sum_insert_hold hids id, hzero] at hinv
      rw [← hstep]
      exact Held.advance hids hcalls hinv
        (hprogram request (hpermits.callable id request rfl) p.state)
  | ret id =>
    rw [Pool.step] at hstep
    cases hcall : p.calls id with
    | none =>
      rw [hcall] at hstep
      cases hstep
    | some c =>
      simp only [hcall] at hstep
      split at hstep
      · rename_i hres
        obtain ⟨result, hres⟩ := isSome_iff_exists.mp hres
        have hrest := hcalls id
        rw [hcall] at hrest
        dsimp only at hrest
        rw [eq_done_of_result hres] at hrest
        have hzero : hold id = 0 := hrest
        rw [sum_insert_hold hids id, hzero] at hinv
        rw [← some.inj hstep]
        exact Held.advance hids hcalls hinv rfl
      · cases hstep
  | run id answer =>
    rw [Pool.step] at hstep
    cases hcall : p.calls id with
    | none =>
      rw [hcall] at hstep
      cases hstep
    | some c =>
      simp only [hcall] at hstep
      have hpermitted := hpermits.permitted id answer c rfl hcall
      have hrest : Holds inv (permitted c.start) (fun _ held => held = 0) c.rest (hold id) := by
        have hcallee := hcalls id
        rwa [hcall] at hcallee
      rw [sum_insert_hold hids id] at hinv
      unfold Pool.run at hstep
      cases hthr : c.rest with
      | done result =>
        rw [hthr] at hstep
        cases hstep
      | act effect next =>
        simp only [hthr, some.injEq] at hstep
        rw [hthr] at hrest
        rw [← hstep] at hpermitted ⊢
        obtain ⟨held', hinv', hnext⟩ := hrest p.state _ hinv hpermitted
        exact Held.advance hids hcalls hinv' hnext
      | ask next =>
        simp only [hthr, some.injEq] at hstep
        rw [hthr] at hrest
        rw [← hstep]
        exact Held.advance hids hcalls hinv (hrest answer)
      | lock | unlock | watch | unwatch =>
        rw [hthr] at hrest
        exact hrest.elim

/-- **A run** keeps the invariant. -/
theorem Held.of_run {okay : Pool σ α γ → Label γ → Pool σ α γ → Prop}
    (hokay : ∀ p label p', okay p label p' → p.Permits callable permitted label p')
    (hprogram : ∀ request, callable request → ∀ s,
      Holds inv (permitted s) (fun _ held => held = 0) (program request) 0)
    (h : p.Held inv permitted) (hrun : Run program okay p p') : p'.Held inv permitted := by
  induction hrun with
  | refl => exact h
  | tail _ hmove ih =>
    obtain ⟨label, hstep, hlabel⟩ := hmove
    exact ih.step hprogram hstep (hokay _ _ _ hlabel)

end Pool

end Interleaving
