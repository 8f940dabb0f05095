import Mathlib.Algebra.Group.Nat.Defs
import NXCast.Framework.Ring

/-!
# The stream bridge

The ring buffer of `stream_bridge.c` between the Matroska muxer and the player, with its
functions as sections under `ring_mutex`.  A section comes to a wait on its condition or leaves
the mutex.  The clock, the parser, the packets and the statistics do not touch the ring; the
configuration calls under `mux_mutex` write nothing and are left out.
-/

namespace NXCast

open Ring

/-! ## The bridge -/

/-- `AIRPLAY_STREAM_BRIDGE_DEFAULT_CAPACITY` -/
def streamBridgeDefaultCapacity : ℕ := 2 * 1024 * 1024

/-- `AIRPLAY_STREAM_BRIDGE_MIN_CAPACITY` -/
def streamBridgeMinCapacity : ℕ := 16 * 1024

/-- The fields of `AirPlayStreamBridge` that the ring depends on. -/
structure AirPlayStreamBridge where
  ring : List UInt8
  capacity : ℕ
  readOffset : ℕ
  writeOffset : ℕ
  buffered : ℕ
  bytesWritten : UInt64
  bytesRead : UInt64
  eof : Bool
  cancelled : Bool
  muxFinished : Bool
deriving DecidableEq

/-- What a section under `ring_mutex` comes to: the thread waits on its condition, or leaves
the mutex. -/
inductive BridgeSection (α : Type) where
  | wait
  | leave (bridge : AirPlayStreamBridge) (result : α)
deriving DecidableEq

/-- What `airplay_stream_bridge_read` returns: the bytes, 0, or -1. -/
inductive BridgeReadResult where
  | bytes (output : List UInt8)
  | endOfStream
  | failed
deriving DecidableEq

namespace AirPlayStreamBridge

/-- `airplay_stream_bridge_create`; `ring` is what `malloc` has returned, which gives nothing
larger than `PTRDIFF_MAX`. -/
def create (capacity : ℕ) (ring : List UInt8) : Option AirPlayStreamBridge :=
  let capacity := if capacity = 0 then streamBridgeDefaultCapacity else capacity
  if capacity < streamBridgeMinCapacity then none
  else if ring.length = capacity ∧ capacity < 2 ^ 63 then
    some
      { ring
        capacity
        readOffset := 0
        writeOffset := 0
        buffered := 0
        bytesWritten := 0
        bytesRead := 0
        eof := false
        cancelled := false
        muxFinished := false }
  else none

/-- The section of `bridge_avio_write`; the result says whether the bytes have been taken. -/
def avioWrite (bridge : AirPlayStreamBridge) (input : List UInt8) : BridgeSection Bool :=
  if !bridge.cancelled && decide (bridge.capacity - bridge.buffered < input.length) then .wait
  else if bridge.cancelled then .leave bridge false
  else
    let first := min (bridge.capacity - bridge.writeOffset) input.length
    let ring := copyIn bridge.ring bridge.writeOffset (input.take first)
    .leave
      { bridge with
        ring := copyIn ring 0 (input.drop first)
        writeOffset := (bridge.writeOffset + input.length) % 2 ^ 64 % bridge.capacity
        buffered := bridge.buffered + input.length
        bytesWritten := bridge.bytesWritten + UInt64.ofNat input.length }
      true

/-- The section of `airplay_stream_bridge_read`. -/
def read (bridge : AirPlayStreamBridge) (outputSize : ℕ) : BridgeSection BridgeReadResult :=
  if bridge.buffered = 0 && !bridge.eof && !bridge.cancelled then .wait
  else if bridge.cancelled then .leave bridge .failed
  else if bridge.buffered = 0 && bridge.eof then .leave bridge .endOfStream
  else
    let amount := min outputSize bridge.buffered
    let first := min (bridge.capacity - bridge.readOffset) amount
    .leave
      { bridge with
        readOffset := (bridge.readOffset + amount) % 2 ^ 64 % bridge.capacity
        buffered := bridge.buffered - amount
        bytesRead := bridge.bytesRead + UInt64.ofNat amount }
      (.bytes (copyOut bridge.ring bridge.readOffset first ++
        copyOut bridge.ring 0 (amount - first)))

/-- The last section of `airplay_stream_bridge_finish`. -/
def finishRing (bridge : AirPlayStreamBridge) : AirPlayStreamBridge :=
  { bridge with eof := !bridge.cancelled }

/-- The section of `airplay_stream_bridge_cancel`. -/
def cancel (bridge : AirPlayStreamBridge) : AirPlayStreamBridge := { bridge with cancelled := true }

/-- The bytes between the writer and the reader. -/
def contents (bridge : AirPlayStreamBridge) : List UInt8 :=
  window bridge.ring bridge.readOffset bridge.buffered

/-- The offsets and the count lie within the ring and fit together. -/
structure Valid (bridge : AirPlayStreamBridge) : Prop where
  allocated : bridge.ring.length = bridge.capacity
  capacity_pos : 0 < bridge.capacity
  capacity_lt : bridge.capacity < 2 ^ 63
  readOffset_lt : bridge.readOffset < bridge.capacity
  writeOffset_eq : bridge.writeOffset = (bridge.readOffset + bridge.buffered) % bridge.capacity
  buffered_le : bridge.buffered ≤ bridge.capacity

variable {bridge bridge' : AirPlayStreamBridge} {input : List UInt8} {outputSize : ℕ}

lemma Valid.create {capacity : ℕ} {ring : List UInt8} (h : create capacity ring = some bridge) :
    bridge.Valid ∧ bridge.buffered = 0 ∧ bridge.bytesWritten = 0 ∧ bridge.bytesRead = 0 ∧
      bridge.eof = false ∧ bridge.cancelled = false := by
  rw [AirPlayStreamBridge.create] at h
  generalize (if capacity = 0 then streamBridgeDefaultCapacity else capacity) = size at h
  split_ifs at h with hmin hmalloc
  obtain rfl := Option.some.inj h
  have hsize : 0 < size := by
    unfold streamBridgeMinCapacity at hmin
    omega
  exact ⟨⟨hmalloc.1, hsize, hmalloc.2, hsize, by simp, Nat.zero_le _⟩, rfl, rfl, rfl, rfl, rfl⟩

lemma Valid.length_contents (h : bridge.Valid) : bridge.contents.length = bridge.buffered :=
  length_window _ (by rw [h.allocated]; exact h.buffered_le)

lemma Valid.writeOffset_lt (h : bridge.Valid) : bridge.writeOffset < bridge.capacity := by
  rw [h.writeOffset_eq]
  exact Nat.mod_lt _ h.capacity_pos

/-! ### What the sections do -/

/-- What the changes of a flag leave. -/
structure SameRing (bridge bridge' : AirPlayStreamBridge) : Prop where
  valid : bridge'.Valid
  contents : bridge'.contents = bridge.contents
  bytesWritten : bridge'.bytesWritten = bridge.bytesWritten
  bytesRead : bridge'.bytesRead = bridge.bytesRead

lemma Valid.sameRing_refl (h : bridge.Valid) : bridge.SameRing bridge := ⟨h, rfl, rfl, rfl⟩

lemma Valid.sameRing_muxFinished (h : bridge.Valid) :
    bridge.SameRing { bridge with muxFinished := true } := by
  obtain ⟨halloc, hpos, hlt, hread, hwrite, hbuffered⟩ := h
  exact ⟨⟨halloc, hpos, hlt, hread, hwrite, hbuffered⟩, rfl, rfl, rfl⟩

lemma Valid.sameRing_finishRing (h : bridge.Valid) : bridge.SameRing bridge.finishRing := by
  obtain ⟨halloc, hpos, hlt, hread, hwrite, hbuffered⟩ := h
  exact ⟨⟨halloc, hpos, hlt, hread, hwrite, hbuffered⟩, rfl, rfl, rfl⟩

lemma Valid.sameRing_cancel (h : bridge.Valid) : bridge.SameRing bridge.cancel := by
  obtain ⟨halloc, hpos, hlt, hread, hwrite, hbuffered⟩ := h
  exact ⟨⟨halloc, hpos, hlt, hread, hwrite, hbuffered⟩, rfl, rfl, rfl⟩

/-- What a write changes, and what it leaves. -/
structure Wrote (bridge : AirPlayStreamBridge) (input : List UInt8)
    (bridge' : AirPlayStreamBridge) : Prop where
  valid : bridge'.Valid
  contents : bridge'.contents = bridge.contents ++ input
  bytesWritten : bridge'.bytesWritten = bridge.bytesWritten + UInt64.ofNat input.length
  bytesRead : bridge'.bytesRead = bridge.bytesRead
  capacity : bridge'.capacity = bridge.capacity
  eof : bridge'.eof = bridge.eof
  cancelled : bridge'.cancelled = bridge.cancelled
  muxFinished : bridge'.muxFinished = bridge.muxFinished

/-- What `bridge_avio_write` can come to. -/
lemma Valid.avioWrite_cases (h : bridge.Valid) (input : List UInt8) :
    (bridge.avioWrite input = .wait ∧ bridge.cancelled = false ∧
        bridge.capacity - bridge.buffered < input.length) ∨
      (bridge.avioWrite input = .leave bridge false ∧ bridge.cancelled) ∨
      ∃ bridge', bridge.avioWrite input = .leave bridge' true ∧ bridge.cancelled = false ∧
        bridge.Wrote input bridge' := by
  unfold avioWrite
  cases hcan : bridge.cancelled
  · by_cases hroom : bridge.capacity - bridge.buffered < input.length
    · left
      simp [hroom]
    right
    right
    have hbuffered := h.buffered_le
    have hcapacity := h.capacity_lt
    have hoff := h.writeOffset_lt
    have hlen := h.allocated
    have hnowrap : (bridge.writeOffset + input.length) % 2 ^ 64 =
        bridge.writeOffset + input.length := Nat.mod_eq_of_lt (by omega)
    have hstore : copyIn (copyIn bridge.ring bridge.writeOffset
          (input.take (min (bridge.capacity - bridge.writeOffset) input.length))) 0
          (input.drop (min (bridge.capacity - bridge.writeOffset) input.length)) =
        store bridge.ring bridge.writeOffset input := by
      rw [store, hlen]
    simp only [Bool.not_false, Bool.true_and, hroom, decide_false, Bool.false_eq_true,
      if_false, hstore, hnowrap]
    refine ⟨_, rfl, trivial, ?_, ?_, rfl, rfl, rfl, rfl, hcan.symm, rfl⟩
    · have hstored : (store bridge.ring bridge.writeOffset input).length =
          bridge.ring.length := length_store (by omega) (by omega)
      refine ⟨hstored.trans hlen, h.capacity_pos, h.capacity_lt, h.readOffset_lt, ?_, ?_⟩
      · dsimp only
        rw [h.writeOffset_eq, Nat.mod_add_mod, Nat.add_assoc]
      · dsimp only
        omega
    · have hwindow := window_store bridge.readOffset (hlen ▸ h.capacity_pos)
        (show bridge.buffered + input.length ≤ bridge.ring.length by omega)
      rw [hlen, ← h.writeOffset_eq] at hwindow
      exact hwindow
  · right
    left
    simp

/-- What a read changes, and what it leaves. -/
structure Took (bridge : AirPlayStreamBridge) (output : List UInt8)
    (bridge' : AirPlayStreamBridge) : Prop where
  valid : bridge'.Valid
  contents : bridge.contents = output ++ bridge'.contents
  bytesWritten : bridge'.bytesWritten = bridge.bytesWritten
  bytesRead : bridge'.bytesRead = bridge.bytesRead + UInt64.ofNat output.length
  capacity : bridge'.capacity = bridge.capacity
  eof : bridge'.eof = bridge.eof
  cancelled : bridge'.cancelled = bridge.cancelled
  muxFinished : bridge'.muxFinished = bridge.muxFinished

/-- What `airplay_stream_bridge_read` can come to. -/
lemma Valid.read_cases (h : bridge.Valid) (outputSize : ℕ) :
    (bridge.read outputSize = .wait ∧ bridge.buffered = 0 ∧ bridge.eof = false ∧
        bridge.cancelled = false) ∨
      (bridge.read outputSize = .leave bridge .failed ∧ bridge.cancelled) ∨
      (bridge.read outputSize = .leave bridge .endOfStream ∧ bridge.buffered = 0 ∧
        bridge.eof ∧ bridge.cancelled = false) ∨
      ∃ bridge', bridge.read outputSize =
          .leave bridge' (.bytes (bridge.contents.take outputSize)) ∧ bridge.buffered ≠ 0 ∧
        bridge.cancelled = false ∧ bridge.Took (bridge.contents.take outputSize) bridge' := by
  unfold read
  cases hcan : bridge.cancelled
  · by_cases hempty : bridge.buffered = 0
    · cases heof : bridge.eof
      · left
        simp [hempty]
      right
      right
      left
      simp [hempty]
    right
    right
    right
    have hbuffered := h.buffered_le
    have hcapacity := h.capacity_lt
    have hread := h.readOffset_lt
    have hlen := h.allocated
    have hnowrap : (bridge.readOffset + min outputSize bridge.buffered) % 2 ^ 64 =
        bridge.readOffset + min outputSize bridge.buffered := Nat.mod_eq_of_lt (by omega)
    have hoff : bridge.readOffset < bridge.ring.length := by omega
    have hamount : min outputSize bridge.buffered ≤ bridge.ring.length := by omega
    have hfetch := fetch_eq_window hoff hamount
    have htake : window bridge.ring bridge.readOffset (min outputSize bridge.buffered) =
        bridge.contents.take outputSize := by
      rw [window_take (Nat.min_le_right outputSize bridge.buffered), ← contents,
        ← h.length_contents]
      exact (List.take_eq_take_min ..).symm
    have hdrop := window_drop bridge.readOffset (Nat.min_le_right outputSize bridge.buffered)
      (show bridge.buffered ≤ bridge.ring.length by omega)
    rw [hlen] at hfetch hdrop
    simp only [hempty, decide_false, Bool.false_and, Bool.false_eq_true, if_false, hfetch,
      htake, hnowrap]
    refine ⟨_, rfl, hempty, trivial, ?_, ?_, rfl, ?_, rfl, rfl, hcan.symm, rfl⟩
    · refine ⟨hlen, h.capacity_pos, h.capacity_lt, Nat.mod_lt _ h.capacity_pos, ?_, ?_⟩
      · dsimp only
        rw [Nat.mod_add_mod, h.writeOffset_eq]
        congr 1
        omega
      · dsimp only
        omega
    · show bridge.contents = bridge.contents.take outputSize ++ window _ _ _
      rw [hdrop, ← contents, ← h.length_contents, ← List.drop_eq_drop_min, List.take_append_drop]
    · rw [List.length_take, h.length_contents]
  · right
    left
    simp

end AirPlayStreamBridge

end NXCast
