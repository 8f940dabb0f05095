import Mathlib.Algebra.Group.Nat.Defs
import Mathlib.Data.List.Basic
import Mathlib.Tactic.Common

/-!
# Programs with checked accesses

A program over memory of a fixed size is written with accesses that check their bounds: it stops
with a refusal where the code returns early, and with a fault where it would touch what is not
there.  `Ensures fault program Q` says that no fault happens and that what is returned is as `Q`
says; the rules below compose it.
-/

namespace Checked

open List

variable {ε α β : Type} {fault : ε → Prop}

/-- The program does not stop with a fault, and what it returns is as `Q` says. -/
def Ensures (fault : ε → Prop) (program : Except ε α) (Q : α → Prop) : Prop :=
  match program with
  | .ok answer => Q answer
  | .error stop => ¬ fault stop

variable {program : Except ε α} {Q Q' : α → Prop} {R : β → Prop}

lemma Ensures.ok {answer : α} (h : Q answer) : Ensures fault (.ok answer) Q := h

lemma Ensures.error {stop : ε} (h : ¬ fault stop) :
    Ensures fault (.error stop : Except ε α) Q := h

lemma Ensures.bind {next : α → Except ε β} (h : Ensures fault program Q)
    (hnext : ∀ answer, Q answer → Ensures fault (next answer) R) :
    Ensures fault (program >>= next) R := by
  cases program with
  | ok answer => exact hnext answer h
  | error stop => exact h

lemma Ensures.ite {condition : Prop} [Decidable condition] {other : Except ε α}
    (h : condition → Ensures fault program Q) (hother : ¬ condition → Ensures fault other Q) :
    Ensures fault (if condition then program else other) Q := by
  split_ifs with hcondition
  · exact h hcondition
  · exact hother hcondition

lemma Ensures.ne_error {stop : ε} (h : Ensures fault program Q) (hfault : fault stop) :
    program ≠ .error stop := by
  rintro rfl
  exact h hfault

/-! ## Memory

Bytes in memory with their size, and sizes of 64 bits. -/

/-- Why a program over memory stops: it returns early, or it would read or write a byte that is
not there, wrap a size, or go on without an end. -/
inductive Stop where
  | refused
  | read
  | write
  | wrap
  | endless
deriving DecidableEq, Repr

/-- Everything but an early return. -/
def Stop.Fault (stop : Stop) : Prop := stop ≠ .refused

/-- A program over memory. -/
abbrev Access := Except Stop

/-- Return early unless a condition holds. -/
def goOnIf (condition : Prop) [Decidable condition] : Access Unit :=
  if condition then .ok () else .error .refused

/-- `a + b` on sizes. -/
def sizeAdd (a b : ℕ) : Access ℕ := if a + b < 2 ^ 64 then .ok (a + b) else .error .wrap

/-- `a - b` on sizes. -/
def sizeSub (a b : ℕ) : Access ℕ := if b ≤ a then .ok (a - b) else .error .wrap

/-- Read one byte. -/
def loadByte (memory : List UInt8) (place : ℕ) : Access UInt8 :=
  match memory[place]? with
  | some byte => .ok byte
  | none => .error .read

/-- Read some bytes in a row. -/
def loadBytes (memory : List UInt8) (place size : ℕ) : Access (List UInt8) :=
  if place + size ≤ memory.length then .ok ((memory.drop place).take size) else .error .read

/-- Memory with some bytes in a row written. -/
def stored (memory : List UInt8) (place : ℕ) (data : List UInt8) : List UInt8 :=
  memory.take place ++ data ++ memory.drop (place + data.length)

/-- Write some bytes in a row. -/
def store (memory : List UInt8) (place : ℕ) (data : List UInt8) : Access (List UInt8) :=
  if place + data.length ≤ memory.length then .ok (stored memory place data) else .error .write

section Memory

variable {memory data : List UInt8} {place size a b : ℕ}

@[simp] lemma ok_bind {answer : α} {next : α → Except ε β} :
    (Except.ok answer >>= next) = next answer := rfl

lemma goOn_pos {condition : Prop} [Decidable condition] (h : condition) :
    goOnIf condition = .ok () := if_pos h

lemma goOn_neg {condition : Prop} [Decidable condition] (h : ¬ condition) :
    goOnIf condition = .error .refused := if_neg h

lemma sizeAdd_eq (h : a + b < 2 ^ 64) : sizeAdd a b = .ok (a + b) := if_pos h

lemma sizeSub_eq (h : b ≤ a) : sizeSub a b = .ok (a - b) := if_pos h

lemma loadByte_eq (h : place < memory.length) :
    loadByte memory place = .ok ((memory.drop place).headD 0) := by
  unfold loadByte
  rw [getElem?_eq_getElem h, drop_eq_getElem_cons h]
  rfl

lemma loadBytes_eq (h : place + size ≤ memory.length) :
    loadBytes memory place size = .ok ((memory.drop place).take size) := if_pos h

lemma store_eq (h : place + data.length ≤ memory.length) :
    store memory place data = .ok (stored memory place data) := if_pos h

@[simp] lemma stored_nil : stored memory place [] = memory := by
  simp [stored]

variable (h : place + data.length ≤ memory.length)

include h

lemma length_stored : (stored memory place data).length = memory.length := by
  simp only [stored, length_append, length_take, length_drop]
  omega

lemma take_stored :
    (stored memory place data).take (place + data.length) = memory.take place ++ data := by
  have hlen : (memory.take place ++ data).length = place + data.length := by
    rw [length_append, length_take, Nat.min_eq_left (by omega)]
  rw [stored, ← hlen, take_left]

lemma stored_stored {more : List UInt8} :
    stored (stored memory place data) (place + data.length) more =
      stored memory place (data ++ more) := by
  have hlen : (memory.take place ++ data).length = place + data.length := by
    rw [length_append, length_take, Nat.min_eq_left (by omega)]
  have hdrop : (stored memory place data).drop (place + data.length + more.length) =
      memory.drop (place + (data ++ more).length) := by
    rw [stored, ← drop_drop, ← hlen, drop_left, drop_drop, length_append,
      length_append, length_take, Nat.min_eq_left (by omega), Nat.add_assoc]
  rw [stored, take_stored h, hdrop, stored, append_assoc, append_assoc, append_assoc, append_assoc]

end Memory

end Checked
