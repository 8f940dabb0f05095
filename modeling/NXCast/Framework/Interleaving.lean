import Mathlib.Logic.Relation
import Mathlib.Logic.Function.Basic
import Mathlib.Tactic.Common

/-!
# Threads that share a state and one lock

A call is a `Thread`: a program whose atomic sections (`act`) read and change a shared state,
and which may hold one global lock over several sections.  `ask` is an answer from outside.
`watch` and `unwatch` change nothing: they mark a stretch in which the program goes on using
what it has read, so that a run can be asked to leave that stretch undisturbed.

`Pool.step` interleaves the sections of any number of threads.  The method is
rely–guarantee: a `Protocol` says what a section may do to the state, with the lock and
without it, `Valid` follows one program through every interference the protocol allows, and
`Sat.step` puts the programs together.
-/

namespace Interleaving

open Option Relation.ReflTransGen Function

variable {σ α β γ : Type}

/-! ## Programs -/

/-- What is left of a call. -/
inductive Thread (σ α : Type) where
  | done (result : α)
  | act (effect : σ → σ) (next : σ → Thread σ α)
  | ask (next : Bool → Thread σ α)
  | lock (next : Thread σ α)
  | unlock (next : Thread σ α)
  | watch (next : σ → Thread σ α)
  | unwatch (next : Thread σ α)

open Thread

namespace Thread

/-- One program after the other. -/
def bind : Thread σ α → (α → Thread σ β) → Thread σ β
  | done result, k => k result
  | act effect next, k => act effect fun s => (next s).bind k
  | ask next, k => ask fun answer => (next answer).bind k
  | lock next, k => lock (next.bind k)
  | unlock next, k => unlock (next.bind k)
  | watch next, k => watch fun s => (next s).bind k
  | unwatch next, k => unwatch (next.bind k)

instance : Monad (Thread σ) where
  pure := done
  bind := bind

/-- A section that only reads. -/
def get (read : σ → α) : Thread σ α := act id fun s => done (read s)

/-- A section that only writes. -/
def modify (effect : σ → σ) : Thread σ Unit := act effect fun _ => done ()

/-- A section that writes and returns a result. -/
def atomic (body : σ → α × σ) : Thread σ α :=
  act (fun s => (body s).2) fun s => done (body s).1

/-- An answer from outside. -/
def answer : Thread σ Bool := ask done

/-- A program under the lock. -/
def locked (body : Thread σ α) : Thread σ α :=
  lock (body >>= fun result => unlock (done result))

/-- Read, and run a program that goes on using what was read. -/
def watched (read : σ → α) (body : α → Thread σ β) : Thread σ β :=
  watch fun s => body (read s) >>= fun result => unwatch (done result)

/-- A program outside every lock and watched stretch, each of whose sections changes the state
as `good` says. -/
def Keeps (good : σ → σ → Prop) : Thread σ α → Prop
  | done _ => True
  | act effect next => ∀ s, good s (effect s) ∧ Keeps good (next s)
  | ask next => ∀ answer, Keeps good (next answer)
  | _ => False

section Keeps

variable {good : σ → σ → Prop}

lemma Keeps.pure (result : α) : Keeps good (Pure.pure result : Thread σ α) := trivial

lemma Keeps.bind {t : Thread σ α} {k : α → Thread σ β} (h : t.Keeps good)
    (hk : ∀ result, (k result).Keeps good) : (t >>= k).Keeps good := by
  show (t.bind k).Keeps good
  induction t with
  | done result => exact hk result
  | act effect next ih => exact fun s => ⟨(h s).1, ih s (h s).2⟩
  | ask next ih => exact fun answer => ih answer (h answer)
  | lock | unlock | watch | unwatch => exact h.elim

lemma Keeps.get (hrefl : ∀ s, good s s) (read : σ → α) : (get read).Keeps good :=
  fun s => ⟨hrefl s, trivial⟩

lemma Keeps.modify {effect : σ → σ} (h : ∀ s, good s (effect s)) : (modify effect).Keeps good :=
  fun s => ⟨h s, trivial⟩

lemma Keeps.atomic {body : σ → α × σ} (h : ∀ s, good s (body s).2) : (atomic body).Keeps good :=
  fun s => ⟨h s, trivial⟩

lemma Keeps.answer : answer.Keeps good := fun _ => trivial

end Keeps

/-- What a call has returned, if it has. -/
def result : Thread σ α → Option α
  | done result => some result
  | _ => none

lemma eq_done_of_result {t : Thread σ α} {value : α} (h : t.result = some value) :
    t = done value := by
  cases t with
  | done result =>
    cases h
    rfl
  | _ => cases h

end Thread

/-! ## Pools of threads -/

/-- Where a thread stands: outside the lock, inside it, or in a watched stretch. -/
inductive Mode where
  | free
  | held
  | watching
deriving DecidableEq

/-- A call in progress, with the state it began in. -/
structure Call (σ α γ : Type) where
  request : γ
  start : σ
  mode : Mode
  rest : Thread σ α

/-- The shared state, the thread that holds the lock, and the call that each thread is
making. -/
structure Pool (σ α γ : Type) where
  state : σ
  holder : Option ℕ
  calls : ℕ → Option (Call σ α γ)

/-- A move of the scheduler: a thread makes a call, runs its next section or returns. -/
inductive Label (γ : Type) where
  | call (id : ℕ) (request : γ)
  | run (id : ℕ) (answer : Bool)
  | ret (id : ℕ)

namespace Pool

/-- The pool in which no call has been made. -/
def initial (s : σ) : Pool σ α γ := ⟨s, none, fun _ => none⟩

/-- No thread is inside a call. -/
def Quiescent (p : Pool σ α γ) : Prop := ∀ id, p.calls id = none

/-- The pool once a call has gone on to `state`, `mode` and `rest`. -/
def advance (p : Pool σ α γ) (id : ℕ) (c : Call σ α γ) (state : σ) (holder : Option ℕ)
    (mode : Mode) (rest : Thread σ α) : Pool σ α γ :=
  ⟨state, holder, Function.update p.calls id (some ⟨c.request, c.start, mode, rest⟩)⟩

section Advance

variable (p : Pool σ α γ) (id : ℕ) (c : Call σ α γ) (state : σ) (holder : Option ℕ)
  (mode : Mode) (rest : Thread σ α)

@[simp] lemma advance_calls_self :
    (p.advance id c state holder mode rest).calls id = some ⟨c.request, c.start, mode, rest⟩ :=
  update_self ..

lemma advance_calls_of_ne {other : ℕ} (h : other ≠ id) :
    (p.advance id c state holder mode rest).calls other = p.calls other :=
  update_of_ne h ..

/-- The pool once a thread has begun a call or returned from one. -/
def withCall (entry : Option (Call σ α γ)) : Pool σ α γ :=
  { p with calls := Function.update p.calls id entry }

variable (entry : Option (Call σ α γ))

@[simp] lemma withCall_calls_self : (p.withCall id entry).calls id = entry :=
  update_self ..

lemma withCall_calls_of_ne {other : ℕ} (h : other ≠ id) :
    (p.withCall id entry).calls other = p.calls other :=
  update_of_ne h ..

end Advance

/-- The next section of a call, if it can run. -/
def run (p : Pool σ α γ) (id : ℕ) (c : Call σ α γ) (answer : Bool) : Option (Pool σ α γ) :=
  match c.rest with
  | .done _ => none
  | .act effect next =>
    some (p.advance id c (effect p.state) p.holder c.mode (next p.state))
  | .ask next => some (p.advance id c p.state p.holder c.mode (next answer))
  | .lock next =>
    if p.holder = none then some (p.advance id c p.state (some id) .held next) else none
  | .unlock next => some (p.advance id c p.state none .free next)
  | .watch next => some (p.advance id c p.state p.holder .watching (next p.state))
  | .unwatch next => some (p.advance id c p.state p.holder .free next)

/-- One move of the scheduler. -/
def step (program : γ → Thread σ α) (p : Pool σ α γ) : Label γ → Option (Pool σ α γ)
  | .call id request =>
    match p.calls id with
    | some _ => none
    | none => some (p.withCall id (some ⟨request, p.state, .free, program request⟩))
  | .run id answer =>
    match p.calls id with
    | none => none
    | some c => p.run id c answer
  | .ret id =>
    match p.calls id with
    | none => none
    | some c =>
      if c.rest.result.isSome then some (p.withCall id none) else none

/-- The moves of a list, one after the other. -/
def steps (program : γ → Thread σ α) : Pool σ α γ → List (Label γ) → Option (Pool σ α γ)
  | p, [] => some p
  | p, label :: labels => (p.step program label).bind fun p' => p'.steps program labels

end Pool

/-! ## Protocols -/

/-- What the sections of a program may do, and what a thread may expect of the others.
`always` holds in every state, `lockInv` whenever nobody holds the lock.  A section outside
the lock may change the state as in `unlocked`, one inside it as in `locked`.  Only moves as in
`allowed` are considered, and while a thread watches the others make only moves as in
`quiet`. -/
structure Protocol (σ : Type) where
  always : σ → Prop
  lockInv : σ → Prop
  unlocked : σ → σ → Prop
  locked : σ → σ → Prop
  quiet : σ → σ → Prop
  allowed : σ → σ → Prop
  unlocked_refl : ∀ s, unlocked s s
  unlocked_trans : ∀ {s t u}, unlocked s t → unlocked t u → unlocked s u
  locked_trans : ∀ {s t u}, locked s t → locked t u → locked s u
  quiet_refl : ∀ s, quiet s s
  quiet_trans : ∀ {s t u}, quiet s t → quiet t u → quiet s u
  locked_of_unlocked : ∀ {s t}, unlocked s t → locked s t
  lockInv_unlocked : ∀ {s t}, always s → always t → lockInv s → unlocked s t → lockInv t

namespace Protocol

variable (P : Protocol σ)

/-- What a thread in a mode must expect of the others. -/
def Rely : Mode → σ → σ → Prop
  | .free => P.locked
  | .held => P.unlocked
  | .watching => fun s t => P.locked s t ∧ P.quiet s t

/-- What a section in a mode may do. -/
def Guarantee : Mode → σ → σ → Prop
  | .held => P.locked
  | _ => P.unlocked

variable {P}

lemma Rely.refl (mode : Mode) (s : σ) : P.Rely mode s s := by
  cases mode with
  | free => exact P.locked_of_unlocked (P.unlocked_refl s)
  | held => exact P.unlocked_refl s
  | watching => exact ⟨P.locked_of_unlocked (P.unlocked_refl s), P.quiet_refl s⟩

lemma Rely.trans {mode : Mode} {s t u : σ} (h : P.Rely mode s t) (h' : P.Rely mode t u) :
    P.Rely mode s u := by
  cases mode with
  | free => exact P.locked_trans h h'
  | held => exact P.unlocked_trans h h'
  | watching => exact ⟨P.locked_trans h.1 h'.1, P.quiet_trans h.2 h'.2⟩

lemma Guarantee.locked {mode : Mode} {s t : σ} (h : P.Guarantee mode s t) : P.locked s t := by
  cases mode with
  | held => exact h
  | free | watching => exact P.locked_of_unlocked h

lemma Guarantee.refl (mode : Mode) (s : σ) : P.Guarantee mode s s := by
  cases mode with
  | held => exact P.locked_of_unlocked (P.unlocked_refl s)
  | free | watching => exact P.unlocked_refl s

end Protocol

/-- A program keeps to the protocol from a state on, whatever the others do: every section
keeps `always`, the guarantee of its mode and `Step`, the lock is given back with its
invariant, and the program ends with `Post`. -/
def Valid (P : Protocol σ) (Step : σ → σ → Prop) (Post : α → Mode → σ → Prop) :
    Thread σ α → Mode → σ → Prop
  | .done result, mode, s => Post result mode s
  | .act effect next, mode, s =>
    ∀ t, P.Rely mode s t → P.always t → P.allowed t (effect t) →
      (P.always (effect t) ∧ P.Guarantee mode t (effect t) ∧ Step t (effect t)) ∧
        Valid P Step Post (next t) mode (effect t)
  | .ask next, mode, s => ∀ answer, Valid P Step Post (next answer) mode s
  | .lock next, mode, s =>
    mode = .free ∧ ∀ t, P.Rely .free s t → P.always t → P.lockInv t →
      Valid P Step Post next .held t
  | .unlock next, mode, s =>
    mode = .held ∧ ∀ t, P.Rely .held s t → P.always t →
      P.lockInv t ∧ Valid P Step Post next .free t
  | .watch next, mode, s =>
    mode = .free ∧ ∀ t, P.Rely .free s t → P.always t → Valid P Step Post (next t) .watching t
  | .unwatch next, mode, s =>
    mode = .watching ∧ ∀ t, P.Rely .watching s t → P.always t →
      Valid P Step Post next .free t

section Rules

variable {P : Protocol σ} {Step : σ → σ → Prop} {mode : Mode} {s : σ}

lemma Valid.bind {Post : β → Mode → σ → Prop} {t : Thread σ α} {k : α → Thread σ β}
    (h : Valid P Step (fun result mode s => Valid P Step Post (k result) mode s) t mode s) :
    Valid P Step Post (t >>= k) mode s := by
  show Valid P Step Post (t.bind k) mode s
  induction t generalizing mode s with
  | done result => exact h
  | act effect next ih =>
    intro t hrely hall hok
    obtain ⟨hkeeps, hrest⟩ := h t hrely hall hok
    exact ⟨hkeeps, ih t hrest⟩
  | ask next ih => exact fun answer => ih answer (h answer)
  | lock next ih => exact ⟨h.1, fun t hrely hall hinv => ih (h.2 t hrely hall hinv)⟩
  | unlock next ih =>
    refine ⟨h.1, fun t hrely hall => ?_⟩
    obtain ⟨hinv, hrest⟩ := h.2 t hrely hall
    exact ⟨hinv, ih hrest⟩
  | watch next ih => exact ⟨h.1, fun t hrely hall => ih t (h.2 t hrely hall)⟩
  | unwatch next ih => exact ⟨h.1, fun t hrely hall => ih (h.2 t hrely hall)⟩

lemma Valid.pure {Post : α → Mode → σ → Prop} {result : α} (h : Post result mode s) :
    Valid P Step Post (Pure.pure result : Thread σ α) mode s := h

variable {Post : α → Mode → σ → Prop}

lemma Valid.mono {Post' : α → Mode → σ → Prop} {t : Thread σ α} (h : Valid P Step Post t mode s)
    (hpost : ∀ result mode s, Post result mode s → Post' result mode s) :
    Valid P Step Post' t mode s := by
  induction t generalizing mode s with
  | done result => exact hpost result mode s h
  | act effect next ih =>
    intro t hrely hall hok
    obtain ⟨hkeeps, hrest⟩ := h t hrely hall hok
    exact ⟨hkeeps, ih t hrest⟩
  | ask next ih => exact fun answer => ih answer (h answer)
  | lock next ih => exact ⟨h.1, fun t hrely hall hinv => ih (h.2 t hrely hall hinv)⟩
  | unlock next ih =>
    refine ⟨h.1, fun t hrely hall => ?_⟩
    obtain ⟨hinv, hrest⟩ := h.2 t hrely hall
    exact ⟨hinv, ih hrest⟩
  | watch next ih => exact ⟨h.1, fun t hrely hall => ih t (h.2 t hrely hall)⟩
  | unwatch next ih => exact ⟨h.1, fun t hrely hall => ih (h.2 t hrely hall)⟩

lemma Valid.get_bind {read : σ → β} {k : β → Thread σ α} (hstep : ∀ t, Step t t)
    (h : ∀ t, P.Rely mode s t → P.always t → Valid P Step Post (k (read t)) mode t) :
    Valid P Step Post (get read >>= k) mode s := by
  intro t hrely hall _
  exact ⟨⟨hall, Protocol.Guarantee.refl mode t, hstep t⟩, h t hrely hall⟩

lemma Valid.answer_bind {k : Bool → Thread σ α}
    (h : ∀ answer, Valid P Step Post (k answer) mode s) :
    Valid P Step Post (answer >>= k) mode s := h

/-- A program under the lock may use the invariant of the lock, and restores it. -/
lemma Valid.locked {body : Thread σ α} (h : ∀ t, P.Rely .free s t → P.always t → P.lockInv t →
      Valid P Step (fun result mode u => mode = .held ∧
        ∀ v, P.Rely .held u v → P.always v → P.lockInv v ∧ Post result .free v) body .held t) :
    Valid P Step Post (locked body) .free s := by
  refine ⟨rfl, fun t hrely hall hinv => Valid.bind ((h t hrely hall hinv).mono ?_)⟩
  rintro result mode u ⟨rfl, hpost⟩
  exact ⟨rfl, hpost⟩

lemma Valid.watched {read : σ → β} {body : β → Thread σ α} (h : ∀ t, P.Rely .free s t → P.always t →
      Valid P Step (fun result mode u => mode = .watching ∧
        ∀ v, P.Rely .watching u v → P.always v → Post result .free v) (body (read t)) .watching t) :
    Valid P Step Post (watched read body) .free s := by
  refine ⟨rfl, fun t hrely hall => Valid.bind ((h t hrely hall).mono ?_)⟩
  rintro result mode u ⟨rfl, hpost⟩
  exact ⟨rfl, hpost⟩

/-- A program without lock is valid if its sections keep an invariant that the others keep
too. -/
lemma Valid.of_keeps {good : σ → σ → Prop} {I : σ → Prop} {t : Thread σ α}
    (hkeeps : t.Keeps good) (hI : I s) (hrely : ∀ s t, I s → P.Rely mode s t → P.always t → I t)
    (hgood : ∀ s t, I s → P.always s → P.allowed s t → good s t →
      (P.always t ∧ P.Guarantee mode s t ∧ Step s t) ∧ I t) :
    Valid P Step (fun _ mode' t => mode' = mode ∧ I t) t mode s := by
  induction t generalizing s with
  | done result => exact ⟨rfl, hI⟩
  | act effect next ih =>
    intro t htrely hall hok
    have ht := hrely s t hI htrely hall
    obtain ⟨hsec, hnext⟩ := hgood t (effect t) ht hall hok (hkeeps t).1
    exact ⟨hsec, ih t (hkeeps t).2 hnext⟩
  | ask next ih => exact fun answer => ih answer (hkeeps answer) hI
  | lock | unlock | watch | unwatch => exact hkeeps.elim

end Rules

/-! ## Runs -/

/-- What is to be proved of a call: what its sections do, and what it ends with.  Both may
speak of the request and of the state in which the call began. -/
structure Spec (σ α γ : Type) where
  step : γ → σ → σ → σ → Prop
  post : γ → σ → α → σ → Prop

/-- A call is somewhere in a valid run of its program. -/
def Call.Follows (P : Protocol σ) (spec : Spec σ α γ) (c : Call σ α γ) (s : σ) : Prop :=
  ∃ t, P.Rely c.mode t s ∧
    Valid P (spec.step c.request c.start)
      (fun result mode s => mode = .free ∧ spec.post c.request c.start result s)
      c.rest c.mode t

/-- Every callable program is valid from every state it may be called in. -/
def Correct (P : Protocol σ) (spec : Spec σ α γ) (callable : γ → Prop)
    (program : γ → Thread σ α) : Prop :=
  ∀ request, callable request → ∀ s, P.always s →
    Valid P (spec.step request s) (fun result mode s' => mode = .free ∧ spec.post request s result s')
      (program request) .free s

namespace Pool

/-- The scheduler keeps to the protocol: it makes only callable calls and allowed moves, and
leaves the watched stretches of other threads quiet. -/
structure Respects (P : Protocol σ) (callable : γ → Prop) (p : Pool σ α γ) (label : Label γ)
    (p' : Pool σ α γ) : Prop where
  callable : ∀ id request, label = .call id request → callable request
  allowed : P.allowed p.state p'.state
  quiet : ∀ id answer, label = .run id answer → ∀ other c, other ≠ id →
    p.calls other = some c → c.mode = .watching → P.quiet p.state p'.state

/-- A move of the scheduler among those of `ok`. -/
def Move (program : γ → Thread σ α) (ok : Pool σ α γ → Label γ → Pool σ α γ → Prop)
    (p p' : Pool σ α γ) : Prop :=
  ∃ label, p.step program label = some p' ∧ ok p label p'

/-- A run of the scheduler. -/
def Run (program : γ → Thread σ α) (ok : Pool σ α γ → Label γ → Pool σ α γ → Prop) :
    Pool σ α γ → Pool σ α γ → Prop :=
  Relation.ReflTransGen (Move program ok)

variable {ok : Pool σ α γ → Label γ → Pool σ α γ → Prop}

lemma Run.mono {program : γ → Thread σ α} {ok' : Pool σ α γ → Label γ → Pool σ α γ → Prop}
    {p p' : Pool σ α γ} (h : Run program ok p p')
    (hok : ∀ q label q', ok q label q' → ok' q label q') : Run program ok' p p' := by
  induction h with
  | refl => exact refl
  | tail _ hmove ih =>
    obtain ⟨label, hstep, hlabel⟩ := hmove
    exact ih.tail ⟨label, hstep, hok _ label _ hlabel⟩

lemma Run.of_steps {program : γ → Thread σ α} {ok : Label γ → Prop} {labels : List (Label γ)}
    {p p' : Pool σ α γ} (hsteps : p.steps program labels = some p')
    (hok : ∀ label ∈ labels, ok label) : Run program (fun _ label _ => ok label) p p' := by
  induction labels generalizing p with
  | nil =>
    cases hsteps
    exact refl
  | cons label labels ih =>
    rw [Pool.steps, bind_eq_some_iff] at hsteps
    obtain ⟨q, hstep, hrest⟩ := hsteps
    rw [List.forall_mem_cons] at hok
    exact (ih hrest hok.2).head ⟨label, hstep, hok.1⟩

/-- The moves of a list, each of which `ok` allows. -/
def checkedSteps (program : γ → Thread σ α) (ok : Pool σ α γ → Label γ → Pool σ α γ → Prop)
    [∀ p label p', Decidable (ok p label p')] : Pool σ α γ → List (Label γ) → Option (Pool σ α γ)
  | p, [] => some p
  | p, label :: labels => (p.step program label).bind fun p' =>
      if ok p label p' then p'.checkedSteps program ok labels else none

lemma Run.of_checkedSteps {program : γ → Thread σ α} [∀ p label p', Decidable (ok p label p')]
    {labels : List (Label γ)} {p p' : Pool σ α γ}
    (hsteps : p.checkedSteps program ok labels = some p') : Run program ok p p' := by
  induction labels generalizing p with
  | nil =>
    cases hsteps
    exact refl
  | cons label labels ih =>
    rw [checkedSteps, bind_eq_some_iff] at hsteps
    obtain ⟨q, hstep, hrest⟩ := hsteps
    split at hrest
    · rename_i hok
      exact (ih hrest).head ⟨label, hstep, hok⟩
    · cases hrest

/-! ### Runs of good sections -/

section Since

variable {good : σ → σ → Prop} {program : γ → Thread σ α} {p p' : Pool σ α γ}

/-- Every call is in a program of good sections, and since it began the state has changed only in
good ways. -/
def Since (good : σ → σ → Prop) (p : Pool σ α γ) : Prop :=
  ∀ id c, p.calls id = some c → good c.start p.state ∧ c.rest.Keeps good

lemma Since.initial (s : σ) : (initial s : Pool σ α γ).Since good := by
  intro id c hcall
  cases hcall

lemma Since.advance (htrans : ∀ s t u, good s t → good t u → good s u) (h : p.Since good)
    {id : ℕ} {c : Call σ α γ} (hcall : p.calls id = some c) {state : σ} {holder : Option ℕ}
    {mode : Mode} {rest : Thread σ α} (hgood : good p.state state) (hrest : rest.Keeps good) :
    (p.advance id c state holder mode rest).Since good := by
  intro other d hother
  by_cases hid : other = id
  · subst hid
    rw [advance_calls_self, some.injEq] at hother
    subst hother
    exact ⟨htrans _ _ _ (h other c hcall).1 hgood, hrest⟩
  · rw [advance_calls_of_ne _ _ _ _ _ _ _ hid] at hother
    exact ⟨htrans _ _ _ (h other d hother).1 hgood, (h other d hother).2⟩

/-- **One move** is a good one. -/
lemma Since.step (hrefl : ∀ s, good s s) (htrans : ∀ s t u, good s t → good t u → good s u)
    (hprogram : ∀ request, (program request).Keeps good) (h : p.Since good) {label : Label γ}
    (hstep : p.step program label = some p') : p'.Since good ∧ good p.state p'.state := by
  cases label with
  | call id request =>
    rw [Pool.step] at hstep
    cases hcall : p.calls id with
    | some c =>
      rw [hcall] at hstep
      cases hstep
    | none =>
      simp only [hcall, some.injEq] at hstep
      subst hstep
      refine ⟨fun other d hother => ?_, hrefl _⟩
      by_cases hid : other = id
      · subst hid
        rw [withCall_calls_self, some.injEq] at hother
        subst hother
        exact ⟨hrefl _, hprogram request⟩
      · rw [withCall_calls_of_ne _ _ _ hid] at hother
        exact h other d hother
  | ret id =>
    rw [Pool.step] at hstep
    cases hcall : p.calls id with
    | none =>
      rw [hcall] at hstep
      cases hstep
    | some c =>
      simp only [hcall] at hstep
      split at hstep
      · rw [some.injEq] at hstep
        subst hstep
        refine ⟨fun other d hother => ?_, hrefl _⟩
        by_cases hid : other = id
        · rw [hid, withCall_calls_self] at hother
          cases hother
        · rw [withCall_calls_of_ne _ _ _ hid] at hother
          exact h other d hother
      · cases hstep
  | run id answer =>
    rw [Pool.step] at hstep
    cases hcall : p.calls id with
    | none =>
      rw [hcall] at hstep
      cases hstep
    | some c =>
      have hkeeps := (h id c hcall).2
      simp only [hcall] at hstep
      unfold Pool.run at hstep
      cases hrest : c.rest with
      | done result =>
        rw [hrest] at hstep
        cases hstep
      | act effect next =>
        rw [hrest] at hkeeps
        simp only [hrest, some.injEq] at hstep
        subst hstep
        exact ⟨h.advance htrans hcall (hkeeps p.state).1 (hkeeps p.state).2, (hkeeps p.state).1⟩
      | ask next =>
        rw [hrest] at hkeeps
        simp only [hrest, some.injEq] at hstep
        subst hstep
        exact ⟨h.advance htrans hcall (hrefl _) (hkeeps answer), hrefl _⟩
      | lock | unlock | watch | unwatch =>
        rw [hrest] at hkeeps
        exact hkeeps.elim

/-- **A run** of programs with good sections changes the state in good ways only, also since each
call began. -/
theorem Since.of_run (hrefl : ∀ s, good s s) (htrans : ∀ s t u, good s t → good t u → good s u)
    (hprogram : ∀ request, (program request).Keeps good) (h : p.Since good)
    {ok : Pool σ α γ → Label γ → Pool σ α γ → Prop} (hrun : Run program ok p p') :
    (p'.Since good ∧ good p.state p'.state) ∧
      Run program (fun q label q' => ok q label q' ∧ q.Since good) p p' := by
  induction hrun with
  | refl => exact ⟨⟨h, hrefl _⟩, refl⟩
  | tail _ hmove ih =>
    obtain ⟨label, hstep, hlabel⟩ := hmove
    obtain ⟨hsince, hgood⟩ := ih.1.1.step hrefl htrans hprogram hstep
    exact ⟨⟨hsince, htrans _ _ _ ih.1.2 hgood⟩, ih.2.tail ⟨label, hstep, hlabel, ih.1.1⟩⟩

end Since

/-- What holds of a pool throughout a run. -/
structure Sat (P : Protocol σ) (spec : Spec σ α γ) (p : Pool σ α γ) : Prop where
  always : P.always p.state
  lockInv : p.holder = none → P.lockInv p.state
  held : ∀ id c, p.calls id = some c → (c.mode = .held ↔ p.holder = some id)
  busy : ∀ id, p.holder = some id → ∃ c, p.calls id = some c
  follows : ∀ id c, p.calls id = some c → c.Follows P spec p.state

variable {P : Protocol σ} {spec : Spec σ α γ} {callable : γ → Prop} {program : γ → Thread σ α}
  {p p' : Pool σ α γ}

lemma Sat.of_quiescent (hquiescent : p.Quiescent) (hfree : p.holder = none)
    (hall : P.always p.state) (hinv : P.lockInv p.state) : p.Sat P spec where
  always := hall
  lockInv _ := hinv
  held id c hcall := by
    rw [hquiescent id] at hcall
    cases hcall
  busy id hhold := by
    rw [hfree] at hhold
    cases hhold
  follows id c hcall := by
    rw [hquiescent id] at hcall
    cases hcall

variable {c : Call σ α γ} {id : ℕ}

lemma Sat.rely_of_guarantee (h : p.Sat P spec) {other : ℕ} {d : Call σ α γ} {t : σ}
    (hcall : p.calls id = some c) (hother : p.calls other = some d) (hne : other ≠ id)
    (hguarantee : P.Guarantee c.mode p.state t) (hquiet : d.mode = .watching → P.quiet p.state t) :
    P.Rely d.mode p.state t := by
  cases hmode : d.mode with
  | free => exact hguarantee.locked
  | watching => exact ⟨hguarantee.locked, hquiet hmode⟩
  | held =>
    -- the other thread holds the lock, so this one does not
    have hhold := (h.held other d hother).mp hmode
    have hfree : c.mode ≠ .held := by
      intro hheld
      rw [(h.held id c hcall).mp hheld, some.injEq] at hhold
      exact hne hhold.symm
    cases hown : c.mode with
    | held => exact absurd hown hfree
    | free | watching => rwa [hown] at hguarantee

/-- A call goes on: the other calls stay where they are, and this one follows its program in
its new place. -/
lemma Sat.advance (h : p.Sat P spec) {t : σ} {holder : Option ℕ} {mode : Mode} {rest : Thread σ α}
    (hothers : ∀ other d, other ≠ id → p.calls other = some d → P.Rely d.mode p.state t)
    (hall : P.always t) (hinv : holder = none → P.lockInv t)
    (hmode : mode = .held ↔ holder = some id)
    (hhold : ∀ other, other ≠ id → (holder = some other ↔ p.holder = some other))
    (hfollows : Call.Follows P spec ⟨c.request, c.start, mode, rest⟩ t) :
    (p.advance id c t holder mode rest).Sat P spec where
  always := hall
  lockInv := hinv
  held other d hother := by
    by_cases hid : other = id
    · subst hid
      rw [advance_calls_self, some.injEq] at hother
      subst hother
      exact hmode
    · rw [advance_calls_of_ne _ _ _ _ _ _ _ hid] at hother
      exact (h.held other d hother).trans (hhold other hid).symm
  busy other hsome := by
    by_cases hid : other = id
    · subst hid
      exact ⟨_, advance_calls_self ..⟩
    · obtain ⟨d, hother⟩ := h.busy other ((hhold other hid).mp hsome)
      exact ⟨d, (advance_calls_of_ne _ _ _ _ _ _ _ hid).trans hother⟩
  follows other d hother := by
    by_cases hid : other = id
    · subst hid
      rw [advance_calls_self, some.injEq] at hother
      subst hother
      exact hfollows
    · rw [advance_calls_of_ne _ _ _ _ _ _ _ hid] at hother
      obtain ⟨u, hrely, hrest⟩ := h.follows other d hother
      exact ⟨u, hrely.trans (hothers other d hid hother), hrest⟩

/-- A section that takes or gives back the lock, asks, watches or forgets: the state stays. -/
lemma Sat.advance_same (h : p.Sat P spec) {holder : Option ℕ} {mode : Mode} {rest : Thread σ α}
    (hinv : holder = none → P.lockInv p.state) (hmode : mode = .held ↔ holder = some id)
    (hhold : ∀ other, other ≠ id → (holder = some other ↔ p.holder = some other))
    (hfollows : Call.Follows P spec ⟨c.request, c.start, mode, rest⟩ p.state) :
    (p.advance id c p.state holder mode rest).Sat P spec :=
  h.advance (fun _ d _ _ => Protocol.Rely.refl d.mode p.state) h.always hinv hmode hhold hfollows

/-- What one section of a call has done. -/
def SectionOf (P : Protocol σ) (spec : Spec σ α γ) (p : Pool σ α γ) (c : Call σ α γ)
    (p' : Pool σ α γ) : Prop :=
  p'.Sat P spec ∧ P.locked p.state p'.state ∧
    (p'.state = p.state ∨ spec.step c.request c.start p.state p'.state)

section

variable (h : p.Sat P spec)

include h

/-- **One section.**  The pool stays within the protocol, and the section is one that the
call may make. -/
lemma Sat.run {answer : Bool} (hcall : p.calls id = some c)
    (hrun : p.run id c answer = some p') (hok : P.allowed p.state p'.state)
    (hquiet : ∀ other d, other ≠ id → p.calls other = some d → d.mode = .watching → P.quiet p.state p'.state) :
    SectionOf P spec p c p' := by
  have hstay : P.locked p.state p.state := P.locked_of_unlocked (P.unlocked_refl _)
  obtain ⟨s, hrely, hvalid⟩ := h.follows id c hcall
  have hheld := h.held id c hcall
  unfold Pool.run at hrun
  cases hrest : c.rest with
  | done result =>
    rw [hrest] at hrun
    cases hrun
  | act effect next =>
    simp only [hrest, some.injEq] at hrun
    subst hrun
    rw [hrest] at hvalid
    obtain ⟨⟨hall, hguarantee, hstep⟩, hnext⟩ := hvalid p.state hrely h.always hok
    refine ⟨h.advance (fun other d hne hother => ?_) hall (fun hnone => ?_) hheld
      (fun other _ => .rfl) ⟨_, Protocol.Rely.refl _ _, hnext⟩, hguarantee.locked,
      .inr hstep⟩
    · exact h.rely_of_guarantee hcall hother hne hguarantee (hquiet other d hne hother)
    -- nobody holds the lock, so this section is outside it
    have hunlocked : P.unlocked p.state (effect p.state) := by
      cases hmode : c.mode with
      | held =>
        rw [hheld.mp hmode] at hnone
        cases hnone
      | free | watching => rwa [hmode] at hguarantee
    exact P.lockInv_unlocked h.always hall (h.lockInv hnone) hunlocked
  | ask next =>
    simp only [hrest, some.injEq] at hrun
    subst hrun
    rw [hrest] at hvalid
    exact ⟨h.advance_same h.lockInv hheld (fun _ _ => .rfl) ⟨s, hrely, hvalid answer⟩, hstay,
      .inl rfl⟩
  | lock next =>
    rw [hrest] at hvalid hrun
    obtain ⟨hmode, hnext⟩ := hvalid
    dsimp only at hrun
    split at hrun
    · rename_i hnone
      simp only [some.injEq] at hrun
      subst hrun
      rw [hmode] at hrely
      refine ⟨h.advance_same (fun hsome => by cases hsome) (by simp) (fun other hne => ?_)
        ⟨p.state, Protocol.Rely.refl _ _, hnext p.state hrely h.always (h.lockInv hnone)⟩, hstay,
        .inl rfl⟩
      rw [hnone, some.injEq]
      constructor
      · exact fun heq => absurd heq.symm hne
      · exact fun hsome => by cases hsome
    · cases hrun
  | unlock next =>
    simp only [hrest, some.injEq] at hrun
    subst hrun
    rw [hrest] at hvalid
    obtain ⟨hmode, hnext⟩ := hvalid
    rw [hmode] at hrely
    obtain ⟨hinv, hvalid⟩ := hnext p.state hrely h.always
    have hhold := hheld.mp hmode
    refine ⟨h.advance_same (fun _ => hinv) (by simp) (fun other hne => ?_)
      ⟨p.state, Protocol.Rely.refl _ _, hvalid⟩, hstay, .inl rfl⟩
    rw [hhold, some.injEq]
    constructor
    · exact fun hsome => by cases hsome
    · exact fun heq => absurd heq.symm hne
  | watch next =>
    simp only [hrest, some.injEq] at hrun
    subst hrun
    rw [hrest] at hvalid
    obtain ⟨hmode, hnext⟩ := hvalid
    rw [hmode] at hrely
    have hother : p.holder ≠ some id := by
      intro hhold
      rw [hmode] at hheld
      exact absurd (hheld.mpr hhold) (by simp)
    exact ⟨h.advance_same h.lockInv (by simp [hother]) (fun _ _ => .rfl)
      ⟨p.state, Protocol.Rely.refl _ _, hnext p.state hrely h.always⟩, hstay, .inl rfl⟩
  | unwatch next =>
    simp only [hrest, some.injEq] at hrun
    subst hrun
    rw [hrest] at hvalid
    obtain ⟨hmode, hnext⟩ := hvalid
    rw [hmode] at hrely
    have hother : p.holder ≠ some id := by
      intro hhold
      rw [hmode] at hheld
      exact absurd (hheld.mpr hhold) (by simp)
    exact ⟨h.advance_same h.lockInv (by simp [hother]) (fun _ _ => .rfl)
      ⟨p.state, Protocol.Rely.refl _ _, hnext p.state hrely h.always⟩, hstay, .inl rfl⟩

lemma Sat.call {request : γ} (hcall : p.calls id = none)
    (hvalid : Valid P (spec.step request p.state) (fun result mode s => mode = .free ∧
      spec.post request p.state result s) (program request) .free p.state) :
    (p.withCall id (some ⟨request, p.state, .free, program request⟩)).Sat P spec where
  always := h.always
  lockInv := h.lockInv
  held other d hother := by
    by_cases hid : other = id
    · subst hid
      rw [withCall_calls_self, some.injEq] at hother
      subst hother
      constructor
      · exact fun hmode => by cases hmode
      intro hhold
      obtain ⟨c, hsome⟩ := h.busy other hhold
      rw [hcall] at hsome
      cases hsome
    · rw [withCall_calls_of_ne _ _ _ hid] at hother
      exact h.held other d hother
  busy other hhold := by
    by_cases hid : other = id
    · subst hid
      exact ⟨_, withCall_calls_self ..⟩
    · obtain ⟨d, hother⟩ := h.busy other hhold
      exact ⟨d, (withCall_calls_of_ne _ _ _ hid).trans hother⟩
  follows other d hother := by
    by_cases hid : other = id
    · subst hid
      rw [withCall_calls_self, some.injEq] at hother
      subst hother
      exact ⟨p.state, Protocol.Rely.refl _ _, hvalid⟩
    · rw [withCall_calls_of_ne _ _ _ hid] at hother
      exact h.follows other d hother

lemma Sat.post_of_done {result : α} (hcall : p.calls id = some c) (hdone : c.rest = .done result) :
    c.mode = .free ∧ ∃ t, P.locked t p.state ∧ spec.post c.request c.start result t := by
  obtain ⟨t, hrely, hvalid⟩ := h.follows id c hcall
  rw [hdone] at hvalid
  obtain ⟨hmode, hpost⟩ := hvalid
  rw [hmode] at hrely
  exact ⟨hmode, t, hrely, hpost⟩

lemma Sat.ret {result : α} (hcall : p.calls id = some c) (hdone : c.rest = .done result) :
    (p.withCall id none).Sat P spec where
  always := h.always
  lockInv := h.lockInv
  held other d hother := by
    by_cases hid : other = id
    · rw [hid, withCall_calls_self] at hother
      cases hother
    · rw [withCall_calls_of_ne _ _ _ hid] at hother
      exact h.held other d hother
  busy other hhold := by
    by_cases hid : other = id
    · subst hid
      have hheld := (h.held other c hcall).mpr hhold
      rw [(h.post_of_done hcall hdone).1] at hheld
      cases hheld
    · obtain ⟨d, hother⟩ := h.busy other hhold
      exact ⟨d, (withCall_calls_of_ne _ _ _ hid).trans hother⟩
  follows other d hother := by
    by_cases hid : other = id
    · rw [hid, withCall_calls_self] at hother
      cases hother
    · rw [withCall_calls_of_ne _ _ _ hid] at hother
      exact h.follows other d hother

/-- **One move.**  The pool stays within the protocol; if the move is a section, it is one that
its call may make. -/
theorem Sat.step (hcorrect : Correct P spec callable program)
    {label : Label γ} (hstep : p.step program label = some p')
    (hok : p.Respects P callable label p') :
    p'.Sat P spec ∧ P.locked p.state p'.state ∧
      (p'.state = p.state ∨ ∃ id answer c, label = .run id answer ∧ p.calls id = some c ∧
        spec.step c.request c.start p.state p'.state) := by
  have hstay : P.locked p.state p.state := P.locked_of_unlocked (P.unlocked_refl _)
  cases label with
  | call id request =>
    rw [Pool.step] at hstep
    cases hcall : p.calls id with
    | some c =>
      rw [hcall] at hstep
      cases hstep
    | none =>
      simp only [hcall, some.injEq] at hstep
      subst hstep
      have hvalid := hcorrect request (hok.callable id request rfl) p.state h.always
      exact ⟨h.call hcall hvalid, hstay, .inl rfl⟩
  | run id answer =>
    rw [Pool.step] at hstep
    cases hcall : p.calls id with
    | none =>
      rw [hcall] at hstep
      cases hstep
    | some c =>
      simp only [hcall] at hstep
      obtain ⟨hsat, hlocked, hmove⟩ := h.run hcall hstep hok.allowed
        fun other d hne hother hwatching => hok.quiet id answer rfl other d hne hother hwatching
      exact ⟨hsat, hlocked, hmove.imp_right fun hsec => ⟨id, answer, c, rfl, hcall, hsec⟩⟩
  | ret id =>
    rw [Pool.step] at hstep
    cases hcall : p.calls id with
    | none =>
      rw [hcall] at hstep
      cases hstep
    | some c =>
      cases hrest : c.rest with
      | done result =>
        simp only [hcall, hrest, Thread.result, isSome_some, if_true, some.injEq] at hstep
        subst hstep
        exact ⟨h.ret hcall hrest, hstay, .inl rfl⟩
      | _ =>
        simp only [hcall, hrest, result] at hstep
        cases hstep

end

/-- **A run.**  The pool stays within the protocol. -/
theorem Sat.of_run (hok : ∀ p label p', ok p label p' → p.Respects P callable label p')
    (hcorrect : Correct P spec callable program) (h : p.Sat P spec) (hrun : Run program ok p p') :
    p'.Sat P spec ∧ P.locked p.state p'.state := by
  induction hrun with
  | refl => exact ⟨h, P.locked_of_unlocked (P.unlocked_refl _)⟩
  | tail _ hmove ih =>
    obtain ⟨label, hstep, hlabel⟩ := hmove
    obtain ⟨hsat, hlocked, -⟩ := ih.1.step hcorrect hstep (hok _ _ _ hlabel)
    exact ⟨hsat, P.locked_trans ih.2 hlocked⟩

end Pool

end Interleaving
