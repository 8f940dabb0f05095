import Mathlib.Tactic.Common

/-!
# Writers into a buffer of bounded size

A serializer built from "append this chunk or report that the buffer is full" has a simple
meaning as a whole: it appends the concatenation of its chunks, or reports the overflow, and
which of the two depends only on the total length.  `Writes limit full w chunk` is that
meaning for one writer `w`, and the rules below compose it.

A writer that also answers, or goes by the place it has reached, is a program on the bytes
written so far; `Emits` says what it has appended where it succeeds.
-/

namespace BoundedWriter

open List Option

variable {ε α β : Type}

/-- `w` appends `chunk` to every buffer within the limit, or fails with `full` when the result
would pass it. -/
def Writes (limit : ℕ) (full : ε) (w : List α → Except ε (List α)) (chunk : List α) : Prop :=
  ∀ buffer, buffer.length ≤ limit →
    w buffer = if buffer.length + chunk.length ≤ limit then .ok (buffer ++ chunk)
      else .error full

variable {limit : ℕ} {full : ε} {w w' : List α → Except ε (List α)} {chunk chunk' : List α}

lemma Writes.nil : Writes limit full (fun buffer => .ok buffer) ([] : List α) := by
  intro buffer hbuffer
  simp [hbuffer]

lemma Writes.seq (h : Writes limit full w chunk) (h' : Writes limit full w' chunk') :
    Writes limit full (fun buffer => w buffer >>= w') (chunk ++ chunk') := by
  intro buffer hbuffer
  simp only [h buffer hbuffer, length_append]
  by_cases hfirst : buffer.length + chunk.length ≤ limit
  · have hnext := h' (buffer ++ chunk) (by simpa using hfirst)
    simp only [if_pos hfirst]
    show w' (buffer ++ chunk) = _
    rw [hnext, length_append, append_assoc, Nat.add_assoc]
  · rw [if_neg hfirst, if_neg (by omega)]
    rfl

/-- A writer that chooses by a decidable condition on its input writes what the branch does. -/
lemma Writes.of_eq (h : Writes limit full w chunk) (hw : ∀ buffer, w' buffer = w buffer) :
    Writes limit full w' chunk := by
  intro buffer hbuffer
  rw [hw buffer, h buffer hbuffer]

/-- Writing the elements of a list in turn writes the concatenation of their chunks. -/
lemma Writes.foldlM {writer : List α → β → Except ε (List α)} {chunks : β → List α}
    (l : List β) (h : ∀ b ∈ l, Writes limit full (fun buffer => writer buffer b) (chunks b)) :
    Writes limit full (fun buffer => l.foldlM writer buffer) (l.flatMap chunks) := by
  induction l with
  | nil =>
    intro buffer hbuffer
    simp [foldlM, hbuffer, pure, Except.pure]
  | cons b l ih =>
    have hhead := h b (by simp)
    have htail := ih fun c hc => h c (by simp [hc])
    exact (hhead.seq htail).of_eq fun buffer => by rw [foldlM_cons]

/-! ## Writers that answer -/

section Emits

variable {m m' : StateT (List α) Option β} {buffer : List α} {Q Q' : β → List α → Prop}

/-- Where `m` succeeds it has appended a chunk, with an answer that `Q` allows for it. -/
def Emits (m : StateT (List α) Option β) (buffer : List α) (Q : β → List α → Prop) : Prop :=
  ∀ b buffer', m buffer = some (b, buffer') → ∃ chunk, buffer' = buffer ++ chunk ∧ Q b chunk

lemma Emits.pure {b : β} (h : Q b []) :
    Emits (Pure.pure b : StateT (List α) Option β) buffer Q := by
  intro b' buffer' hrun
  obtain ⟨rfl, rfl⟩ := Prod.mk.inj (some.inj hrun)
  exact ⟨[], (append_nil _).symm, h⟩

lemma Emits.failure : Emits (failure : StateT (List α) Option β) buffer Q :=
  nofun

lemma Emits.place {Q : ℕ → List α → Prop} (h : Q buffer.length []) :
    Emits (do return (← get).length : StateT (List α) Option ℕ) buffer Q := by
  intro b buffer' hrun
  obtain ⟨rfl, rfl⟩ := Prod.mk.inj (some.inj hrun)
  exact ⟨[], (append_nil _).symm, h⟩

lemma Emits.mono (h : Emits m buffer Q) (hQ : ∀ b chunk, Q b chunk → Q' b chunk) :
    Emits m buffer Q' := by
  intro b buffer' hrun
  obtain ⟨chunk, hbuffer, hchunk⟩ := h b buffer' hrun
  exact ⟨chunk, hbuffer, hQ b chunk hchunk⟩

lemma Emits.bind {γ : Type} {f : β → StateT (List α) Option γ} {R : γ → List α → Prop}
    (hm : Emits m buffer Q) (hf : ∀ b chunk, Q b chunk →
      Emits (f b) (buffer ++ chunk) fun c more => R c (chunk ++ more)) :
    Emits (m >>= f) buffer R := by
  intro c result hrun
  obtain ⟨⟨b, middle⟩, hfirst, hsnd⟩ := bind_eq_some_iff.mp hrun
  obtain ⟨chunk, rfl, hchunk⟩ := hm b middle hfirst
  obtain ⟨more, rfl, hmore⟩ := hf b chunk hchunk c result hsnd
  exact ⟨chunk ++ more, append_assoc _ _ _, hmore⟩

lemma Emits.ite {c : Prop} [Decidable c] (ht : c → Emits m buffer Q)
    (he : ¬c → Emits m' buffer Q) : Emits (if c then m else m') buffer Q := by
  split_ifs with hc
  · exact ht hc
  · exact he hc

end Emits

/-! ## Writers that go by lengths -/

section SameShape

variable {m m' : StateT (List α) Option β} {buffer buffer' : List α}

/-- Two writers succeed together, answer alike and reach the same place, from places that are the
same. -/
def SameShape (m m' : StateT (List α) Option β) : Prop :=
  ∀ buffer buffer', buffer.length = buffer'.length →
    (m buffer).map (fun result => (result.1, result.2.length)) =
      (m' buffer').map fun result => (result.1, result.2.length)

lemma SameShape.isSome (h : SameShape m m') (hlen : buffer.length = buffer'.length) :
    (m buffer).isSome = (m' buffer').isSome := by
  have hsame := congrArg Option.isSome (h buffer buffer' hlen)
  rwa [isSome_map, isSome_map] at hsame

lemma SameShape.pure (b : β) :
    SameShape (Pure.pure b : StateT (List α) Option β) (Pure.pure b) := by
  intro buffer buffer' hlen
  show some (b, buffer.length) = some (b, buffer'.length)
  rw [hlen]

lemma SameShape.failure : SameShape (failure : StateT (List α) Option β) failure :=
  fun _ _ _ => rfl

lemma SameShape.place : SameShape (do return (← get).length : StateT (List α) Option ℕ)
    (do return (← get).length) := by
  intro buffer buffer' hlen
  show some (buffer.length, buffer.length) = some (buffer'.length, buffer'.length)
  rw [hlen]

lemma SameShape.bind {γ : Type} {f f' : β → StateT (List α) Option γ} (h : SameShape m m')
    (hf : ∀ b, SameShape (f b) (f' b)) : SameShape (m >>= f) (m' >>= f') := by
  intro buffer buffer' hlen
  have hfirst := h buffer buffer' hlen
  show ((m buffer).bind fun result => f result.1 result.2).map _ =
    ((m' buffer').bind fun result => f' result.1 result.2).map _
  cases hm : m buffer with
  | none =>
    rw [hm, map_none] at hfirst
    rw [map_eq_none_iff.mp hfirst.symm]
    rfl
  | some result =>
    rw [hm, map_some] at hfirst
    obtain ⟨result', hm', heq⟩ := map_eq_some_iff.mp hfirst.symm
    obtain ⟨hanswer, hplace⟩ := Prod.mk.inj heq
    rw [hm']
    show (f result.1 result.2).map _ = (f' result'.1 result'.2).map _
    rw [hanswer]
    exact hf result.1 result.2 result'.2 hplace.symm

end SameShape

end BoundedWriter
