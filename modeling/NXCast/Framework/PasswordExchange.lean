import Mathlib.Algebra.Ring.Defs
import Mathlib.Data.ZMod.Basic
import Mathlib.Tactic.Ring

/-!
# Password-authenticated key exchange

The algebra of SRP-6a over a commutative ring: a server that keeps only the `verifier` of a
password and a client that knows the password come to the same secret.  Nothing is assumed of
the ring, so the identity holds modulo any number; `secrets_agree_mod` is that form, with every
intermediate value reduced.
-/

namespace PasswordExchange

section ring

variable {R : Type*} [CommRing R] (g k : R) (x a b u : ℕ)

/-- What the server keeps of the password exponent `x`. -/
def verifier : R := g ^ x

/-- The public value of the client's exponent `a`. -/
def clientPublic : R := g ^ a

/-- The public value of the server's exponent `b`, blinded by the verifier. -/
def serverPublic : R := k * verifier g x + g ^ b

/-- The server's secret. -/
def serverSecret (clientValue : R) : R := (clientValue * verifier g x ^ u) ^ b

/-- The client's secret. -/
def clientSecret (serverValue : R) : R := (serverValue - k * g ^ x) ^ (a + u * x)

/-- **Both sides come to the same secret.** -/
theorem secrets_agree :
    serverSecret g x b u (clientPublic g a) = clientSecret g k x a u (serverPublic g k x b) := by
  have hblinded : serverPublic g k x b - k * g ^ x = g ^ b := by
    rw [serverPublic, verifier]
    ring
  rw [serverSecret, clientSecret, hblinded, clientPublic, verifier, ← pow_mul, ← pow_add,
    ← pow_mul, ← pow_mul]
  congr 1
  ring

end ring

/-! ## Modulo a number -/

/-- The exchange modulo `n`, with every intermediate value of the server reduced. -/
theorem secrets_agree_mod (n g k x a b u : ℕ) :
    ((g ^ a % n * ((g ^ x % n) ^ u % n) % n) ^ b % n : ℕ) =
      ((((k * (g ^ x % n) % n + g ^ b % n) % n : ℕ) : ℤ) - k * (g : ℤ) ^ x) ^ (a + u * x) % n := by
  have hcast : (((g ^ a % n * ((g ^ x % n) ^ u % n) % n) ^ b : ℕ) : ZMod n) =
      (((((k * (g ^ x % n) % n + g ^ b % n) % n : ℕ) : ℤ) - k * (g : ℤ) ^ x) ^ (a + u * x) : ℤ) := by
    have hagree := secrets_agree (g : ZMod n) k x a b u
    simp only [serverSecret, clientSecret, clientPublic, serverPublic, verifier] at hagree
    push_cast
    simpa using hagree
  have hint : ((((g ^ a % n * ((g ^ x % n) ^ u % n) % n) ^ b : ℕ) : ℤ) : ZMod n) =
      (((((k * (g ^ x % n) % n + g ^ b % n) % n : ℕ) : ℤ) - k * (g : ℤ) ^ x) ^ (a + u * x) : ℤ) := by
    rw [Int.cast_natCast]
    exact hcast
  exact (ZMod.intCast_eq_intCast_iff' _ _ _).mp hint

end PasswordExchange
