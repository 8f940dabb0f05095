import Mathlib.Order.Nat
import NXCast.Framework.Checked

/-!
# Capacities

`util/size.h` and `iptv/data.h`: a capacity is doubled until it is enough, and clamped to its limit.
Sizes are numbers below `2 ^ 64` with their arithmetic checked (`Framework/Checked`); a loop that does
not end within 64 doublings has no end.
-/

namespace NXCast

open Checked

/-- `left * right` on sizes. -/
def sizeMul (left right : ℕ) : Access ℕ :=
  if left * right < 2 ^ 64 then .ok (left * right) else .error .wrap

/-- `nxcast_size_add` -/
def nxcastSizeAdd (left right : ℕ) : Option ℕ :=
  if right > 2 ^ 64 - 1 - left then none else some (left + right)

/-- `nxcast_size_multiply` -/
def nxcastSizeMultiply (left right : ℕ) : Option ℕ :=
  if left ≠ 0 ∧ right > (2 ^ 64 - 1) / left then none else some (left * right)

/-- What a turn of both loops makes of a capacity. -/
def grown (limit capacity : ℕ) : Access ℕ :=
  if capacity > limit / 2 then .ok limit else sizeMul capacity 2

/-- The loop of `nxcast_size_grow`, of so many turns at most. -/
def growLoop (required limit : ℕ) : ℕ → ℕ → Access (Option ℕ)
  | 0, _ => .error .endless
  | turns + 1, capacity =>
    if capacity < required then do
      let capacity ← grown limit capacity
      if capacity < required ∧ capacity = limit then return none
      growLoop required limit turns capacity
    else return capacity

/-- `nxcast_size_grow`: the capacity it stores, `none` when it fails. -/
def nxcastSizeGrow (current required initial limit : ℕ) : Access (Option ℕ) :=
  if initial = 0 ∨ current > limit ∨ required > limit then return none
  else if current ≥ required then return current
  else
    let capacity := if current > 0 then current else initial
    if capacity > limit then return none else growLoop required limit 65 capacity

/-- What the callers of `iptv_data_reserve` keep, and the size of the allocation. -/
structure IptvData where
  allocated : ℕ
  capacity : ℕ
  failed : Bool
deriving DecidableEq

/-- The loop of `iptv_data_reserve`, of so many turns at most. -/
def reserveLoop (needed maximum : ℕ) : ℕ → ℕ → Access ℕ
  | 0, _ => .error .endless
  | turns + 1, next =>
    if next < needed then do
      let next ← grown maximum next
      reserveLoop needed maximum turns next
    else return next

/-- `INT_MAX` -/
def maxInt : ℕ := 2147483647

/-- How many elements `iptv_data_reserve` allows. -/
def iptvDataMaximum (elementSize byteLimit : ℕ) : ℕ :=
  let maximum := if elementSize ≠ 0 then byteLimit / elementSize else 0
  if maximum > maxInt - 3 then maxInt - 3 else maximum

/-- `iptv_data_reserve`; `reallocated` is what `realloc` answers. -/
def iptvDataReserve (needed elementSize byteLimit : ℕ) (reallocated : Bool) (data : IptvData) :
    Access IptvData :=
  if data.failed ∨ needed ≤ data.capacity then return data
  else
    let maximum := iptvDataMaximum elementSize byteLimit
    if needed > maximum then return { data with failed := true }
    else do
      let next ← reserveLoop needed maximum 65
        (if data.capacity ≠ 0 then data.capacity else if maximum < 16 then maximum else 16)
      let size ← sizeMul next elementSize
      if !reallocated then return { data with failed := true }
      return { data with allocated := size, capacity := next }

/-! ## Growth -/

variable {needed limit capacity turns : ℕ}

lemma grown_eq (hlimit : limit < 2 ^ 64) :
    grown limit capacity = .ok (if capacity > limit / 2 then limit else capacity * 2) := by
  rw [grown]
  split
  · rfl
  · exact if_pos (by omega)

/-- The loop of `nxcast_size_grow` never comes to its refusal. -/
lemma growLoop_eq (hneeded : needed ≤ limit) :
    growLoop needed limit turns capacity = some <$> reserveLoop needed limit turns capacity := by
  induction turns generalizing capacity with
  | zero => rfl
  | succ turns ih =>
    rw [growLoop, reserveLoop]
    split
    · cases grown limit capacity with
      | error stop => rfl
      | ok next =>
        rw [ok_bind, ok_bind, if_neg (by omega)]
        exact ih
    · rfl

/-- Every turn but the last clamps or doubles, so 64 of them are enough for a 64-bit size. -/
lemma reserveLoop_eq (hlimit : limit < 2 ^ 64) (hneeded : needed ≤ limit) (hpos : 0 < capacity)
    (hle : capacity ≤ limit) (hturns : needed ≤ capacity * 2 ^ turns) :
    ∃ next, reserveLoop needed limit (turns + 1) capacity = .ok next ∧ needed ≤ next ∧
      next ≤ limit := by
  induction turns generalizing capacity with
  | zero =>
    rw [reserveLoop, if_neg (by omega)]
    exact ⟨capacity, rfl, by omega, hle⟩
  | succ turns ih =>
    rw [reserveLoop]
    split
    · rw [grown_eq hlimit, ok_bind]
      split
      · exact ih (by omega) le_rfl (hneeded.trans (Nat.le_mul_of_pos_right _ (Nat.two_pow_pos _)))
      · exact ih (by omega) (by omega) (by rwa [Nat.mul_assoc, ← Nat.pow_succ'])
    · exact ⟨capacity, rfl, by omega, hle⟩

/-- `nxcast_size_grow` ends; it fails for the reasons it checks, and stores what is enough. -/
lemma nxcastSizeGrow_eq (hlimit : limit < 2 ^ 64) (current initial : ℕ) :
    ∃ stored, nxcastSizeGrow current needed initial limit = .ok stored ∧
      (stored = none ↔ initial = 0 ∨ limit < current ∨ limit < needed ∨
        current < needed ∧ current = 0 ∧ limit < initial) ∧
      ∀ capacity ∈ stored, needed ≤ capacity ∧ capacity ≤ limit := by
  rw [nxcastSizeGrow]
  split
  · exact ⟨none, rfl, ⟨fun _ => by omega, fun _ => rfl⟩, nofun⟩
  split
  · refine ⟨some current, rfl, ⟨nofun, by omega⟩, fun capacity hcapacity => ?_⟩
    cases hcapacity
    omega
  dsimp only
  generalize hstart : (if current > 0 then current else initial) = start
  have hpos : 0 < start ∧ (limit < start ↔ current = 0 ∧ limit < initial) := by
    split at hstart <;> omega
  split
  · exact ⟨none, rfl, ⟨fun _ => by omega, fun _ => rfl⟩, nofun⟩
  obtain ⟨next, hnext, hbounds⟩ := reserveLoop_eq hlimit (by omega) hpos.1 (by omega)
    (show needed ≤ start * 2 ^ 64 by omega)
  rw [growLoop_eq (by omega), hnext]
  refine ⟨some next, rfl, ⟨nofun, by omega⟩, fun capacity hcapacity => ?_⟩
  cases hcapacity
  exact hbounds

lemma iptvDataMaximum_le (elementSize byteLimit : ℕ) :
    iptvDataMaximum elementSize byteLimit ≤ maxInt ∧
      iptvDataMaximum elementSize byteLimit * elementSize ≤ byteLimit := by
  have hle : iptvDataMaximum elementSize byteLimit ≤ min maxInt (byteLimit / elementSize) := by
    unfold iptvDataMaximum
    grind
  exact ⟨hle.trans (min_le_left _ _), (Nat.mul_le_mul_right elementSize
    (hle.trans (min_le_right _ _))).trans (Nat.div_mul_le_self _ _)⟩

/-- `iptv_data_reserve` ends; failing it changes nothing but the flag. -/
lemma iptvDataReserve_eq (elementSize : ℕ) {byteLimit : ℕ} (hbytes : byteLimit < 2 ^ 64)
    (reallocated : Bool) (data : IptvData) :
    ∃ after, iptvDataReserve needed elementSize byteLimit reallocated data = .ok after ∧
      if after.failed then after = { data with failed := true }
      else needed ≤ after.capacity ∧ (after = data ∨
        after.capacity * elementSize ≤ byteLimit ∧ after.allocated = after.capacity * elementSize) := by
  obtain ⟨hint, hfits⟩ := iptvDataMaximum_le elementSize byteLimit
  rw [iptvDataReserve]
  dsimp only
  generalize iptvDataMaximum elementSize byteLimit = maximum at hint hfits ⊢
  unfold maxInt at hint
  by_cases hkept : data.failed = true ∨ needed ≤ data.capacity
  · rw [if_pos hkept]
    refine ⟨data, rfl, ?_⟩
    split
    · rename_i hfailed
      rw [← hfailed]
    · exact ⟨hkept.resolve_left ‹_›, .inl rfl⟩
  rw [if_neg hkept]
  split
  · exact ⟨_, rfl, rfl⟩
  generalize hstart : (if data.capacity ≠ 0 then data.capacity else if maximum < 16 then maximum
    else 16) = start
  have hpos : 0 < start ∧ start ≤ maximum := by
    split_ifs at hstart <;> omega
  obtain ⟨next, hnext, henough, hle⟩ := reserveLoop_eq (by omega) (by omega) hpos.1 hpos.2
    (show needed ≤ start * 2 ^ 64 by omega)
  have hsize := (Nat.mul_le_mul_right elementSize hle).trans hfits
  rw [hnext, ok_bind, sizeMul, if_pos (by omega), ok_bind]
  cases reallocated with
  | false => exact ⟨_, rfl, rfl⟩
  | true =>
    refine ⟨_, rfl, ?_⟩
    rw [if_neg fun hfailed => hkept (.inl hfailed)]
    exact ⟨henough, .inr ⟨hsize, rfl⟩⟩

/-- **The growth of capacities.** For all sizes both functions end without wrapping a size.
`nxcast_size_grow` fails exactly when the capacity or what is needed exceeds the limit, or no capacity
can start the growth, and stores a capacity that is enough and within the limit.  `iptv_data_reserve`
leaves a capacity that is enough: the one there was, or one within the bytes; and failing it changes
nothing but the flag. -/
theorem capacityGrowth_law (current required initial limit needed elementSize byteLimit : UInt64)
    (reallocated : Bool) (data : IptvData) :
    (∃ stored, nxcastSizeGrow current.toNat required.toNat initial.toNat limit.toNat = .ok stored ∧
      (stored = none ↔ initial = 0 ∨ limit < current ∨ limit < required ∨
        current < required ∧ current = 0 ∧ limit < initial) ∧
      ∀ capacity ∈ stored, required.toNat ≤ capacity ∧ capacity ≤ limit.toNat) ∧
    ∃ after, iptvDataReserve needed.toNat elementSize.toNat byteLimit.toNat reallocated data =
        .ok after ∧
      if after.failed then after = { data with failed := true }
      else needed.toNat ≤ after.capacity ∧ (after = data ∨
        after.capacity * elementSize.toNat ≤ byteLimit.toNat ∧
          after.allocated = after.capacity * elementSize.toNat) := by
  refine ⟨?_, iptvDataReserve_eq _ byteLimit.toNat_lt _ _⟩
  obtain ⟨stored, hgrow, hfails, hbounds⟩ :=
    @nxcastSizeGrow_eq required.toNat limit.toNat limit.toNat_lt current.toNat initial.toNat
  refine ⟨stored, hgrow, hfails.trans ?_, hbounds⟩
  simp only [UInt64.lt_iff_toNat_lt, ← UInt64.toNat_inj, UInt64.toNat_zero]

/-- A capacity that is enough stays, also beyond the bytes. -/
theorem capacityGrowth_kept : iptvDataReserve 1 8 8 true ⟨16, 2, false⟩ = .ok ⟨16, 2, false⟩ ∧
    (8 : ℕ) < 2 * 8 := ⟨rfl, by decide⟩

end NXCast
