import Mathlib.Algebra.Group.Nat.Defs
import Mathlib.Data.Nat.Init
import Mathlib.Order.Nat
import Mathlib.Tactic.Common

/-!
# Player ownership

`ownership.c` keeps one lease and a generation counter under one mutex, so every function here
is one atomic section on `PlayerOwnership`.  The record carries two fields that no function
reads: the leases that claims have returned, newest first, and how many generations have been
handed out.  `PlayerOwnership.Sound` is what every run keeps: the current lease is the newest
one or none, and, until the 32-bit counter wraps, generations grow from claim to claim.
-/

namespace NXCast

open List

/-- `PlayerMediaOwner` -/
inductive PlayerMediaOwner where
  | none
  | dlna
  | iptv
  | airplayVideo
  | airplayMirror
deriving DecidableEq, Repr

/-- `PlayerOwnershipLease` -/
structure PlayerOwnershipLease where
  owner : PlayerMediaOwner
  token : UInt64
  generation : UInt32
deriving DecidableEq

/-- The lease that `memset` leaves. -/
def PlayerOwnershipLease.zero : PlayerOwnershipLease := ⟨.none, 0, 0⟩

/-- The state of `ownership.c`.  `claims` and `stamps` record its history. -/
structure PlayerOwnership where
  current : PlayerOwnershipLease
  nextGeneration : UInt32
  claims : List PlayerOwnershipLease
  stamps : ℕ

/-- The state before the first call. -/
def PlayerOwnership.initial : PlayerOwnership := ⟨.zero, 0, [], 0⟩

/-! ## The functions -/

/-- `next_generation`: the counter skips zero. -/
def nextGeneration (counter : UInt32) : UInt32 :=
  if counter + 1 = 0 then counter + 1 + 1 else counter + 1

/-- `player_ownership_claim`: the lease that is granted and the one before it. -/
def playerOwnershipClaim (owner : PlayerMediaOwner) (token : UInt64) (o : PlayerOwnership) :
    Option (PlayerOwnershipLease × PlayerOwnershipLease) × PlayerOwnership :=
  if owner = .none then (none, o)
  else
    let lease : PlayerOwnershipLease := ⟨owner, token, nextGeneration o.nextGeneration⟩
    (some (lease, o.current),
      { current := lease
        nextGeneration := nextGeneration o.nextGeneration
        claims := lease :: o.claims
        stamps := o.stamps + 1 })

/-- `player_ownership_validate` -/
def playerOwnershipValidate (lease : PlayerOwnershipLease) (o : PlayerOwnership) : Bool :=
  if lease.owner = .none ∨ lease.generation = 0 then false else decide (lease = o.current)

/-- `player_ownership_release` -/
def playerOwnershipRelease (lease : PlayerOwnershipLease) (o : PlayerOwnership) :
    Bool × PlayerOwnership :=
  if lease = o.current then (true, { o with current := .zero }) else (false, o)

/-- `player_ownership_release_current` -/
def playerOwnershipReleaseCurrent (owner : PlayerMediaOwner) (token : UInt64)
    (o : PlayerOwnership) : Bool × PlayerOwnership :=
  if o.current.owner = owner ∧ o.current.token = token then (true, { o with current := .zero })
  else (false, o)

/-- `player_ownership_reset` -/
def playerOwnershipReset (o : PlayerOwnership) : PlayerOwnership :=
  { o with
    current := .zero
    nextGeneration := nextGeneration o.nextGeneration
    stamps := o.stamps + 1 }

/-- `player_ownership_current`, when somebody owns the player. -/
def PlayerOwnership.owned (o : PlayerOwnership) : Bool := decide (o.current.owner ≠ .none)

/-! ## Generations -/

lemma nextGeneration_ne_zero (counter : UInt32) : nextGeneration counter ≠ 0 := by
  unfold nextGeneration
  split_ifs with hwrap
  · rw [hwrap]
    decide
  · assumption

lemma toNat_nextGeneration {counter : UInt32} (h : counter.toNat + 1 < 2 ^ 32) :
    (nextGeneration counter).toNat = counter.toNat + 1 := by
  have hsum : (counter + 1).toNat = counter.toNat + 1 := by
    exact Nat.mod_eq_of_lt h
  unfold nextGeneration
  rw [if_neg, hsum]
  intro hzero
  rw [hzero] at hsum
  simp at hsum

namespace PlayerOwnership

/-- What every run keeps. -/
structure Sound (o : PlayerOwnership) : Prop where
  current : o.current = .zero ∨ o.claims.head? = some o.current
  valid : ∀ lease ∈ o.claims, lease.owner ≠ .none ∧ lease.generation ≠ 0
  generation : o.stamps < 2 ^ 32 → o.nextGeneration.toNat = o.stamps
  generation_le : o.stamps < 2 ^ 32 → ∀ lease ∈ o.claims, lease.generation.toNat ≤ o.stamps
  growing : o.stamps < 2 ^ 32 →
    o.claims.Pairwise fun newer older => older.generation.toNat < newer.generation.toNat

/-- The leases of a later state: those of the earlier one, behind newer ones.  Generations
that have been handed out stay so. -/
structure Extends (o o' : PlayerOwnership) : Prop where
  claims : o.claims <:+ o'.claims
  stamps : o.stamps ≤ o'.stamps

/-- A change that grants nothing: the owner stays, or the player loses it. -/
structure Drops (o o' : PlayerOwnership) : Prop where
  claims : o'.claims = o.claims
  stamps : o.stamps ≤ o'.stamps
  current : o'.current = o.current ∨ o'.current = .zero

lemma Extends.refl (o : PlayerOwnership) : o.Extends o := ⟨suffix_rfl, le_rfl⟩

variable {o o' : PlayerOwnership}

lemma Extends.trans {o'' : PlayerOwnership} (h : o.Extends o') (h' : o'.Extends o'') :
    o.Extends o'' :=
  ⟨h.claims.trans h'.claims, h.stamps.trans h'.stamps⟩

lemma Drops.refl (o : PlayerOwnership) : o.Drops o := ⟨rfl, le_rfl, .inl rfl⟩

lemma Drops.trans {o'' : PlayerOwnership} (h : o.Drops o') (h' : o'.Drops o'') :
    o.Drops o'' where
  claims := h'.claims.trans h.claims
  stamps := h.stamps.trans h'.stamps
  current := by
    rcases h'.current with hsame | hnone
    · rw [hsame]
      exact h.current
    · exact .inr hnone

lemma Drops.extends (h : o.Drops o') : o.Extends o' :=
  ⟨h.claims ▸ suffix_rfl, h.stamps⟩

variable (lease : PlayerOwnershipLease)

lemma drops_release (o : PlayerOwnership) :
    o.Drops (playerOwnershipRelease lease o).2 := by
  unfold playerOwnershipRelease
  split
  · exact ⟨rfl, le_rfl, .inr rfl⟩
  · exact Drops.refl o

variable (owner : PlayerMediaOwner)

lemma drops_releaseCurrent (token : UInt64) (o : PlayerOwnership) :
    o.Drops (playerOwnershipReleaseCurrent owner token o).2 := by
  unfold playerOwnershipReleaseCurrent
  split
  · exact ⟨rfl, le_rfl, .inr rfl⟩
  · exact Drops.refl o

lemma drops_reset (o : PlayerOwnership) : o.Drops (playerOwnershipReset o) :=
  ⟨rfl, Nat.le_succ _, .inr rfl⟩

lemma extends_claim (token : UInt64) (o : PlayerOwnership) :
    o.Extends (playerOwnershipClaim owner token o).2 := by
  unfold playerOwnershipClaim
  split
  · exact Extends.refl o
  · exact ⟨suffix_cons .., Nat.le_succ _⟩

/-! ## Soundness -/

lemma sound_initial : initial.Sound where
  current := .inl rfl
  valid _ h := by cases h
  generation _ := rfl
  generation_le _ _ h := by cases h
  growing _ := List.Pairwise.nil

variable (h : o.Sound)

include h

lemma Sound.release : (playerOwnershipRelease lease o).2.Sound := by
  unfold playerOwnershipRelease
  split
  · exact { h with current := .inl rfl }
  · exact h

lemma Sound.releaseCurrent (token : UInt64) :
    (playerOwnershipReleaseCurrent owner token o).2.Sound := by
  unfold playerOwnershipReleaseCurrent
  split
  · exact { h with current := .inl rfl }
  · exact h

lemma Sound.toNat_next (hstamp : o.stamps + 1 < 2 ^ 32) :
    (NXCast.nextGeneration o.nextGeneration).toNat = o.stamps + 1 := by
  have hcounter := h.generation (by omega)
  rw [toNat_nextGeneration (by omega), hcounter]

lemma Sound.reset : (playerOwnershipReset o).Sound where
  current := .inl rfl
  valid := h.valid
  generation hstamp := h.toNat_next hstamp
  generation_le hstamp lease hmem := by
    have hstamp' : o.stamps + 1 < 2 ^ 32 := hstamp
    have := h.generation_le (by omega) lease hmem
    show lease.generation.toNat ≤ o.stamps + 1
    omega
  growing hstamp := by
    have hstamp' : o.stamps + 1 < 2 ^ 32 := hstamp
    exact h.growing (by omega)

lemma Sound.claim (token : UInt64) :
    (playerOwnershipClaim owner token o).2.Sound := by
  unfold playerOwnershipClaim
  split_ifs with howner
  · exact h
  refine ⟨.inr rfl, ?_, h.toNat_next, ?_, ?_⟩
  · intro lease hmem
    rcases mem_cons.mp hmem with rfl | hmem
    · exact ⟨howner, nextGeneration_ne_zero _⟩
    · exact h.valid lease hmem
  · intro hstamp lease hmem
    have hstamp' : o.stamps + 1 < 2 ^ 32 := hstamp
    rcases mem_cons.mp hmem with rfl | hmem
    · exact (h.toNat_next hstamp').le
    have := h.generation_le (by omega) lease hmem
    show lease.generation.toNat ≤ o.stamps + 1
    omega
  · intro hstamp
    have hstamp' : o.stamps + 1 < 2 ^ 32 := hstamp
    refine pairwise_cons.mpr ⟨fun lease hmem => ?_, h.growing (by omega)⟩
    have := h.generation_le (by omega) lease hmem
    show lease.generation.toNat < (NXCast.nextGeneration o.nextGeneration).toNat
    rw [h.toNat_next hstamp']
    omega

/-! ## What a lease is good for -/

lemma Sound.newest_of_validate {lease : PlayerOwnershipLease}
    (hvalid : playerOwnershipValidate lease o = true) :
    o.current = lease ∧ o.claims.head? = some lease := by
  unfold playerOwnershipValidate at hvalid
  split at hvalid
  · cases hvalid
  rename_i hlease
  rw [decide_eq_true_eq] at hvalid
  rw [not_or] at hlease
  refine ⟨hvalid.symm, ?_⟩
  rcases h.current with hnone | hhead
  · rw [← hvalid] at hnone
    rw [hnone] at hlease
    exact absurd rfl hlease.1
  · rw [hhead, hvalid]

lemma Sound.nodup (hstamp : o.stamps < 2 ^ 32) : o.claims.Nodup := by
  refine (h.growing hstamp).imp ?_
  rintro newer older hless rfl
  exact absurd hless (lt_irrefl _)

end PlayerOwnership

end NXCast
