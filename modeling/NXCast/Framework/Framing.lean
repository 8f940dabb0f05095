import Mathlib.Data.Nat.Init
import Mathlib.Order.Nat
import Mathlib.Tactic.Common

/-!
# Cutting a byte stream into frames

A receiver keeps the bytes it has not used yet, appends every chunk it reads and cuts frames
off the front as long as its parser finds one.  The parser sees the whole rest each time, so
nothing forces its verdict to depend on one frame only; `Stable` says that it does: a frame
found, or a refusal, stays what it is when more bytes arrive behind it.

Under `Stable` the chunks do not matter.  `feed_eq_bytes` reduces every chunk to its single
bytes, so two chunkings of one stream leave the same session behind.
-/

namespace Framing

open List

variable {α ρ ε : Type}

/-- What a parser says about a buffer. -/
inductive Verdict (ρ ε : Type) where
  | frame (frame : ρ) (consumed : ℕ)
  | more
  | bad (error : ε)

/-- A receiver: the frames cut so far, the bytes not used yet, and the refusal that ended it. -/
structure Session (α ρ ε : Type) where
  frames : List ρ
  pending : List α
  failure : Option ε

/-- The parser's verdict on a prefix is its verdict on the stream, up to `limit` bytes. -/
structure Stable (parse : List α → Verdict ρ ε) (limit : ℕ) : Prop where
  frame_append : ∀ {p q : List α} {r : ρ} {n : ℕ}, (p ++ q).length ≤ limit →
    parse p = .frame r n → parse (p ++ q) = .frame r n
  bad_append : ∀ {p q : List α} {e : ε}, (p ++ q).length ≤ limit →
    parse p = .bad e → parse (p ++ q) = .bad e
  consumed : ∀ {p : List α} {r : ρ} {n : ℕ}, parse p = .frame r n → 0 < n ∧ n ≤ p.length

variable (parse : List α → Verdict ρ ε)

/-- Cut frames off the pending bytes until there is none. -/
def drain (session : Session α ρ ε) : Session α ρ ε :=
  match session.failure with
  | some _ => session
  | none =>
    match parse session.pending with
    | .more => session
    | .bad error => { session with pending := [], failure := some error }
    | .frame frame consumed =>
      if 0 < consumed ∧ consumed ≤ session.pending.length then
        drain { session with
          frames := session.frames ++ [frame], pending := session.pending.drop consumed }
      else session
termination_by session.pending.length
decreasing_by
  simp only [List.length_drop]
  omega

/-- Receive a chunk. -/
def feed (session : Session α ρ ε) (chunk : List α) : Session α ρ ε :=
  match session.failure with
  | some _ => session
  | none => drain parse { session with pending := session.pending ++ chunk }

variable {parse} {limit : ℕ} {frames : List ρ} {pending : List α}

lemma drain_failed {failure : ε} :
    drain parse ⟨frames, pending, some failure⟩ = ⟨frames, pending, some failure⟩ := by
  rw [drain]

lemma drain_more (h : parse pending = .more) :
    drain parse ⟨frames, pending, none⟩ = ⟨frames, pending, none⟩ := by
  rw [drain]
  simp only [h]

lemma drain_bad {error : ε} (h : parse pending = .bad error) :
    drain parse ⟨frames, pending, none⟩ = ⟨frames, [], some error⟩ := by
  rw [drain]
  simp only [h]

lemma drain_frame (hstab : Stable parse limit) {found : ρ} {consumed : ℕ}
    (h : parse pending = .frame found consumed) :
    drain parse ⟨frames, pending, none⟩ =
      drain parse ⟨frames ++ [found], pending.drop consumed, none⟩ := by
  rw [drain]
  simp only [h]
  rw [if_pos (hstab.consumed h)]

@[simp] lemma feed_failed {failure : ε} (chunk : List α) :
    feed parse ⟨frames, pending, some failure⟩ chunk = ⟨frames, pending, some failure⟩ := rfl

@[simp] lemma feed_open (chunk : List α) :
    feed parse ⟨frames, pending, none⟩ chunk = drain parse ⟨frames, pending ++ chunk, none⟩ := rfl

lemma drain_induction (hstab : Stable parse limit) {motive : Session α ρ ε → Prop}
    (failed : ∀ frames pending failure, motive ⟨frames, pending, some failure⟩)
    (more : ∀ frames pending, parse pending = .more → motive ⟨frames, pending, none⟩)
    (bad : ∀ frames pending error, parse pending = .bad error → motive ⟨frames, pending, none⟩)
    (frame : ∀ frames pending found consumed, parse pending = .frame found consumed → motive ⟨frames ++ [found], pending.drop consumed, none⟩ → motive ⟨frames, pending, none⟩)
    (session : Session α ρ ε) : motive session := by
  obtain ⟨frames, pending, failure⟩ := session
  cases failure with
  | some failure => exact failed frames pending failure
  | none =>
    induction hlen : pending.length using Nat.strong_induction_on
      generalizing frames pending with
    | _ length ih =>
      cases hparse : parse pending with
      | more => exact more frames pending hparse
      | bad error => exact bad frames pending error hparse
      | frame found consumed =>
        obtain ⟨hpos, hle⟩ := hstab.consumed hparse
        refine frame frames pending found consumed hparse (ih _ ?_ _ _ rfl)
        rw [length_drop]
        omega

lemma length_pending_drain_le (hstab : Stable parse limit) (session : Session α ρ ε) :
    (drain parse session).pending.length ≤ session.pending.length := by
  induction session using drain_induction hstab with
  | failed frames pending failure => rw [drain_failed]
  | more frames pending h => rw [drain_more h]
  | bad frames pending error h =>
    rw [drain_bad h]
    exact Nat.zero_le _
  | frame frames pending found consumed h ih =>
    rw [drain_frame hstab h]
    refine ih.trans ?_
    rw [length_drop]
    exact Nat.sub_le _ _

lemma drain_drain (hstab : Stable parse limit) (session : Session α ρ ε) :
    drain parse (drain parse session) = drain parse session := by
  induction session using drain_induction hstab with
  | failed frames pending failure => rw [drain_failed, drain_failed]
  | more frames pending h => rw [drain_more h, drain_more h]
  | bad frames pending error h => rw [drain_bad h, drain_failed]
  | frame frames pending found consumed h ih => rw [drain_frame hstab h, ih]

variable {session : Session α ρ ε}

variable (hstab : Stable parse limit)

include hstab

/-- Draining early does not change what comes out: the frames cut before the rest arrives are
those that are cut after. -/
lemma feed_drain {chunk : List α} (hfits : (session.pending ++ chunk).length ≤ limit) :
    feed parse (drain parse session) chunk = feed parse session chunk := by
  induction session using drain_induction hstab with
  | failed frames pending failure => rw [drain_failed]
  | more frames pending h => rw [drain_more h]
  | bad frames pending error h =>
    rw [drain_bad h, feed_failed, feed_open, drain_bad (hstab.bad_append hfits h)]
  | frame frames pending found consumed h ih =>
    have hdrop : (pending ++ chunk).drop consumed = pending.drop consumed ++ chunk :=
      drop_append_of_le_length (hstab.consumed h).2
    rw [drain_frame hstab h, ih ?_, feed_open, feed_open,
      drain_frame hstab (hstab.frame_append hfits h), hdrop]
    simp only [length_append, length_drop] at hfits ⊢
    omega

lemma feed_append {c d : List α} (hfits : (session.pending ++ (c ++ d)).length ≤ limit) :
    feed parse (feed parse session c) d = feed parse session (c ++ d) := by
  obtain ⟨frames, pending, _ | failure⟩ := session
  · rw [← append_assoc] at hfits
    rw [feed_open, feed_drain hstab hfits, feed_open, feed_open, append_assoc]
  · simp only [feed_failed]

lemma length_pending_feed_le (session : Session α ρ ε) (chunk : List α) :
    (feed parse session chunk).pending.length ≤ session.pending.length + chunk.length := by
  obtain ⟨frames, pending, _ | failure⟩ := session
  · have hle := length_pending_drain_le hstab ⟨frames, pending ++ chunk, none⟩
    rwa [length_append] at hle
  · exact Nat.le_add_right _ _

lemma drain_feed (hdrain : drain parse session = session)
    (chunk : List α) : drain parse (feed parse session chunk) = feed parse session chunk := by
  obtain ⟨frames, pending, _ | failure⟩ := session
  · exact drain_drain hstab _
  · exact hdrain

lemma feed_eq_bytes {chunk : List α} (hdrain : drain parse session = session)
    (hfits : session.pending.length + chunk.length ≤ limit) :
    feed parse session chunk =
      chunk.foldl (fun session byte => feed parse session [byte]) session := by
  induction chunk generalizing session with
  | nil =>
    obtain ⟨frames, pending, _ | failure⟩ := session
    · rw [feed_open, append_nil, foldl_nil]
      exact hdrain
    · rfl
  | cons byte chunk ih =>
    have hsplit : feed parse (feed parse session [byte]) chunk =
        feed parse session ([byte] ++ chunk) :=
      feed_append hstab (by rw [length_append]; exact hfits)
    have hlen := length_pending_feed_le hstab session [byte]
    simp only [length_cons, length_nil] at hfits hlen
    rw [foldl_cons, ← ih (drain_feed hstab hdrain [byte]) (by omega), hsplit]
    rfl

end Framing
