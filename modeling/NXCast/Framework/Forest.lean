import Mathlib.Data.Finset.Card
import Mathlib.Data.Finset.Filter
import Mathlib.Logic.Relation
import Mathlib.Tactic.Common

/-!
# Forests of holders

`holds a c` says that `a` holds `c`.  The relation is a forest when nothing holds itself over any number
of steps and nothing has two holders.  It stays one when something that nobody holds is put under a
holder that is not below it (`IsForest.add`).  What two holders have below them meets in a forest only
if one of them is below the other.
-/

namespace Forest

open Relation

variable {α : Type*} {holds other : α → α → Prop}

/-- Nothing is below itself, and nothing has two holders. -/
structure IsForest (holds : α → α → Prop) : Prop where
  acyclic : ∀ a, ¬TransGen holds a a
  unique : ∀ {a b c}, holds a c → holds b c → a = b

lemma IsForest.mono (h : IsForest holds) (hsub : ∀ a c, other a c → holds a c) : IsForest other :=
  ⟨fun a hcycle => h.acyclic a (hcycle.lift id hsub),
    fun hleft hright => h.unique (hsub _ _ hleft) (hsub _ _ hright)⟩

lemma transGen_add {holder item a c : α} (hitem : ¬ReflTransGen holds item holder)
    (h : TransGen (fun a c => holds a c ∨ (a = holder ∧ c = item)) a c) :
    TransGen holds a c ∨ (ReflTransGen holds a holder ∧ ReflTransGen holds item c) := by
  induction h with
  | single hstep =>
    rcases hstep with hold | ⟨rfl, rfl⟩
    · exact .inl (.single hold)
    · exact .inr ⟨.refl, .refl⟩
  | tail _ hstep ih =>
    rcases hstep with hold | ⟨rfl, rfl⟩
    · rcases ih with hway | ⟨hup, hdown⟩
      · exact .inl (hway.tail hold)
      · exact .inr ⟨hup, hdown.tail hold⟩
    · rcases ih with hway | ⟨-, hdown⟩
      · exact .inr ⟨hway.to_reflTransGen, .refl⟩
      · exact absurd hdown hitem

/-- **One more item.** Nobody held it, and its new holder is not below it. -/
lemma IsForest.add (h : IsForest holds) {holder item : α} (hfree : ∀ a, ¬holds a item)
    (hitem : ¬ReflTransGen holds item holder) :
    IsForest fun a c => holds a c ∨ (a = holder ∧ c = item) := by
  refine ⟨fun a hcycle => ?_, fun hleft hright => ?_⟩
  · rcases transGen_add hitem hcycle with hway | ⟨hup, hdown⟩
    · exact h.acyclic a hway
    · exact hitem (hdown.trans hup)
  rcases hleft with hleft | ⟨rfl, rfl⟩
  · rcases hright with hright | ⟨rfl, rfl⟩
    · exact h.unique hleft hright
    · exact absurd hleft (hfree _)
  · rcases hright with hright | ⟨rfl, -⟩
    · exact absurd hright (hfree _)
    · rfl

lemma IsForest.comparable (h : IsForest holds) {a b c : α} (hleft : ReflTransGen holds a c)
    (hright : ReflTransGen holds b c) : ReflTransGen holds a b ∨ ReflTransGen holds b a := by
  induction hleft with
  | refl => exact .inr hright
  | tail hup hlast ih =>
    rcases hright.cases_tail with rfl | ⟨above, habove, hholds⟩
    · exact .inl (hup.tail hlast)
    · obtain rfl := h.unique hlast hholds
      exact ih habove

lemma IsForest.siblings (h : IsForest holds) {holder a b c : α} (ha : holds holder a)
    (hb : holds holder b) (hne : a ≠ b) (hleft : ReflTransGen holds a c)
    (hright : ReflTransGen holds b c) : False := by
  have hcycle : ∀ {low high : α}, holds holder low → holds holder high → low ≠ high →
      ¬ReflTransGen holds high low := by
    intro low high hlow hhigh hdiffer hway
    rcases hway.cases_tail with rfl | ⟨above, habove, hholds⟩
    · exact hdiffer rfl
    · rw [← h.unique hlow hholds] at habove
      exact h.acyclic holder (TransGen.head' hhigh habove)
  rcases h.comparable hleft hright with hway | hway
  · exact hcycle hb ha (Ne.symm hne) hway
  · exact hcycle ha hb hne hway

lemma IsForest.roots (h : IsForest holds) {a b c : α} (ha : ∀ x, ¬holds x a) (hb : ∀ x, ¬holds x b)
    (hleft : ReflTransGen holds a c) (hright : ReflTransGen holds b c) : a = b := by
  rcases h.comparable hleft hright with hway | hway
  · rcases hway.cases_tail with rfl | ⟨above, -, hholds⟩
    · rfl
    · exact absurd hholds (hb above)
  · rcases hway.cases_tail with rfl | ⟨above, -, hholds⟩
    · rfl
    · exact absurd hholds (ha above)

open Classical in
/-- **A rank.** In a forest over finitely many items each holder ranks above what it holds. -/
lemma IsForest.exists_rank (h : IsForest holds) {items : Finset α}
    (hitems : ∀ a c, holds a c → c ∈ items) :
    ∃ rank : α → ℕ, (∀ a, rank a ≤ items.card) ∧ ∀ a c, holds a c → rank c < rank a := by
  refine ⟨fun a => (items.filter fun c => TransGen holds a c).card,
    fun a => Finset.card_filter_le _ _, fun a c hac => Finset.card_lt_card ?_⟩
  rw [Finset.ssubset_iff_of_subset]
  · refine ⟨c, ?_, ?_⟩
    · rw [Finset.mem_filter]
      exact ⟨hitems a c hac, .single hac⟩
    · rw [Finset.mem_filter]
      exact fun hmem => h.acyclic c hmem.2
  · intro x hx
    rw [Finset.mem_filter] at hx ⊢
    exact ⟨hx.1, TransGen.head hac hx.2⟩

end Forest
