import NXCast.Framework.Interleaving

/-!
# A program on its own

`Thread.alone` runs a program without interference; what is asked for outside is answered from a
sequence.  `Thread.Ends` is its weakest precondition: whatever the answers, the program ends in
`Post`.
-/

namespace Interleaving

namespace Thread

variable {σ α β : Type}

/-- The result of a program that runs without interference, and the state it ends in. -/
def alone : Thread σ α → (ℕ → Bool) → σ → α × σ
  | done result, _, s => (result, s)
  | act effect next, answers, s => (next s).alone answers (effect s)
  | ask next, answers, s => (next (answers 0)).alone (fun n => answers (n + 1)) s
  | lock next, answers, s => next.alone answers s
  | unlock next, answers, s => next.alone answers s
  | watch next, answers, s => (next s).alone answers s
  | unwatch next, answers, s => next.alone answers s

/-- Whatever the answers, the program ends with `Post` of its result and the state. -/
def Ends (Post : α → σ → Prop) : Thread σ α → σ → Prop
  | done result, s => Post result s
  | act effect next, s => Ends Post (next s) (effect s)
  | ask next, s => ∀ answer, Ends Post (next answer) s
  | lock next, s => Ends Post next s
  | unlock next, s => Ends Post next s
  | watch next, s => Ends Post (next s) s
  | unwatch next, s => Ends Post next s

variable {Post : α → σ → Prop} {s : σ} {t : Thread σ α}

lemma Ends.alone (h : t.Ends Post s) (answers : ℕ → Bool) :
    Post (t.alone answers s).1 (t.alone answers s).2 := by
  induction t generalizing s answers with
  | done result => exact h
  | act effect next ih => exact ih s h answers
  | ask next ih => exact ih _ (h _) _
  | lock next ih | unlock next ih | unwatch next ih => exact ih h answers
  | watch next ih => exact ih s h answers

lemma Ends.pure {result : α} (h : Post result s) : (Pure.pure result : Thread σ α).Ends Post s := h

lemma Ends.bind {P : α → σ → Prop} {Q : β → σ → Prop} {k : α → Thread σ β} (h : t.Ends P s)
    (hk : ∀ result s', P result s' → (k result).Ends Q s') : (t >>= k).Ends Q s := by
  show (t.bind k).Ends Q s
  induction t generalizing s with
  | done result => exact hk result s h
  | act effect next ih => exact ih s h
  | ask next ih => exact fun answer => ih answer (h answer)
  | lock next ih | unlock next ih | unwatch next ih => exact ih h
  | watch next ih => exact ih s h

lemma Ends.mono {Q : α → σ → Prop} (h : t.Ends Post s)
    (hpost : ∀ result s', Post result s' → Q result s') : t.Ends Q s := by
  induction t generalizing s with
  | done result => exact hpost result s h
  | act effect next ih => exact ih s h
  | ask next ih => exact fun answer => ih answer (h answer)
  | lock next ih | unlock next ih | unwatch next ih => exact ih h
  | watch next ih => exact ih s h

lemma Ends.ite {c : Prop} [Decidable c] {t' : Thread σ α} (ht : c → t.Ends Post s)
    (he : ¬c → t'.Ends Post s) : (if c then t else t').Ends Post s := by
  split_ifs with hc
  · exact ht hc
  · exact he hc

lemma Ends.get_bind {read : σ → β} {k : β → Thread σ α} (h : (k (read s)).Ends Post s) :
    (Thread.get read >>= k).Ends Post s := h

lemma Ends.modify_bind {effect : σ → σ} {k : Unit → Thread σ α} (h : (k ()).Ends Post (effect s)) :
    (Thread.modify effect >>= k).Ends Post s := h

lemma Ends.atomic_bind {body : σ → β × σ} {k : β → Thread σ α}
    (h : (k (body s).1).Ends Post (body s).2) : (Thread.atomic body >>= k).Ends Post s := h

lemma Ends.answer_bind {k : Bool → Thread σ α} (h : ∀ answer, (k answer).Ends Post s) :
    (Thread.answer >>= k).Ends Post s := h

/-- A program of good sections, run on its own, has changed the state in a good way. -/
lemma Keeps.ends {good : σ → σ → Prop} (hrefl : ∀ s, good s s)
    (htrans : ∀ s t u, good s t → good t u → good s u) (h : t.Keeps good) (s : σ) :
    t.Ends (fun _ s' => good s s') s := by
  induction t generalizing s with
  | done result => exact hrefl s
  | act effect next ih =>
    exact (ih s (h s).2 (effect s)).mono fun _ _ hgood => htrans _ _ _ (h s).1 hgood
  | ask next ih => exact fun answer => ih answer (h answer) s
  | lock | unlock | watch | unwatch => exact h.elim

end Thread

end Interleaving
