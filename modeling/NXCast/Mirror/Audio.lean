import NXCast.Framework.BigEndian
import NXCast.Framework.Slots
import Mathlib.Data.Fintype.Fin

/-!
# The audio reorder window

`airplay_mirror_audio_process_packet` of `mirror/audio.c` and what it calls.  A window of 64
slots holds packets that have arrived early; the frames of the head of the window go out in
order.  Sockets, threads and counters of diagnostics are left out; the payload decryption is a
parameter, since it lives in a crypto library.

Every function that calls the frame callback returns the frames it has delivered.
-/

namespace NXCast

open Slots

/-- `AIRPLAY_MIRROR_AUDIO_WINDOW` -/
def audioWindow : ℕ := 64

/-- A filled `AirPlayAudioSlot`; its size is the length of its data. -/
structure AirPlayAudioSlot where
  data : List UInt8
  sequence : UInt16
  timestamp : UInt32
deriving DecidableEq

/-- `AirPlayMirrorAudioFrame` -/
structure AirPlayMirrorAudioFrame where
  data : List UInt8
  sequence : UInt16
  rtpTimestamp : UInt32
  discontinuity : Bool
deriving DecidableEq

/-- The fields of `AirPlayMirrorAudio` that packets depend on.  A slot that is not filled is
`none`. -/
structure AirPlayMirrorAudio where
  slots : Fin audioWindow → Option AirPlayAudioSlot
  buffered : ℕ
  expectedSequence : UInt16
  sequenceReady : Bool
  discontinuity : Bool
  recording : Bool

namespace AirPlayMirrorAudio

/-- What `airplay_mirror_audio_create` leaves. -/
def created : AirPlayMirrorAudio := ⟨fun _ => none, 0, 0, false, false, false⟩

/-- The slot of a sequence number. -/
def slotIndex (sequence : UInt16) : Fin audioWindow :=
  ⟨sequence.toNat % audioWindow, Nat.mod_lt _ (by decide)⟩

variable (audio : AirPlayMirrorAudio)

/-- How many slots are filled. -/
def filled : ℕ := count (fun _ => true) audio.slots

/-- `audio_slots_clear` -/
def slotsClear : AirPlayMirrorAudio :=
  { audio with slots := fun _ => none, buffered := 0 }

/-- The slot at the head of the window, if it holds the packet that is expected. -/
def head? : Option AirPlayAudioSlot :=
  if audio.sequenceReady then
    (audio.slots (slotIndex audio.expectedSequence)).filter
      fun slot => slot.sequence = audio.expectedSequence
  else none

/-- The state once the head of the window has gone out. -/
def advance : AirPlayMirrorAudio :=
  { audio with
    slots := Function.update audio.slots (slotIndex audio.expectedSequence) none
    buffered := audio.buffered - 1
    expectedSequence := audio.expectedSequence + 1
    discontinuity := false }

/-- The frame of a slot. -/
def frame (slot : AirPlayAudioSlot) : AirPlayMirrorAudioFrame :=
  ⟨slot.data, slot.sequence, slot.timestamp, audio.discontinuity⟩

lemma head?_eq_some {audio : AirPlayMirrorAudio} {slot : AirPlayAudioSlot}
    (h : audio.head? = some slot) :
    audio.sequenceReady = true ∧
      audio.slots (slotIndex audio.expectedSequence) = some slot ∧
      slot.sequence = audio.expectedSequence := by
  unfold head? at h
  split at h
  · rename_i hready
    rw [Option.filter_eq_some_iff] at h
    exact ⟨hready, h.1, of_decide_eq_true h.2⟩
  · cases h

lemma filled_advance {audio : AirPlayMirrorAudio} {slot : AirPlayAudioSlot}
    (h : audio.head? = some slot) : audio.advance.filled + 1 = audio.filled := by
  obtain ⟨-, hslot, -⟩ := head?_eq_some h
  exact count_clear hslot

/-- `audio_emit_ready` -/
def emitReady (audio : AirPlayMirrorAudio) : List AirPlayMirrorAudioFrame × AirPlayMirrorAudio :=
  match _ : audio.head? with
  | none => ([], audio)
  | some slot =>
    let (frames, rest) := audio.advance.emitReady
    (if audio.recording then audio.frame slot :: frames else frames, rest)
termination_by audio.filled
decreasing_by
  have := filled_advance ‹audio.head? = some slot›
  omega

/-- The loop of `audio_skip_gap_if_needed`: the nearest filled slot and its distance. -/
def nearest : UInt16 × UInt16 :=
  (List.finRange audioWindow).foldl
    (fun best index =>
      match audio.slots index with
      | none => best
      | some slot =>
        if slot.sequence - audio.expectedSequence < best.2 then
          (slot.sequence, slot.sequence - audio.expectedSequence)
        else best)
    (0, 0xffff)

/-- `audio_skip_gap_if_needed` -/
def skipGapIfNeeded : AirPlayMirrorAudio :=
  if audio.buffered < 3 then audio
  else if audio.nearest.2 ≠ 0xffff ∧ audio.nearest.2 ≠ 0 then
    { audio with expectedSequence := audio.nearest.1, discontinuity := true }
  else audio

/-- The end of `airplay_mirror_audio_process_packet`: the packet is in its slot. -/
def deliver (slot : AirPlayAudioSlot) :
    List AirPlayMirrorAudioFrame × AirPlayMirrorAudio :=
  let (first, audio) := emitReady
    { audio with
      slots := Function.update audio.slots (slotIndex slot.sequence) (some slot)
      buffered := audio.buffered + 1 }
  let (second, audio) := audio.skipGapIfNeeded.emitReady
  (first ++ second, audio)

/-- The window once a packet with this sequence number has been looked at: at the first packet
it begins there, and a packet too far ahead moves it. -/
def makeRoom (sequence : UInt16) : AirPlayMirrorAudio :=
  if audioWindow ≤ (sequence - audio.expectedSequence).toNat then
    { audio.slotsClear with expectedSequence := sequence, discontinuity := true }
  else audio

/-- The packet in the slot of another one is thrown away. -/
def evict (index : Fin audioWindow) : AirPlayMirrorAudio :=
  if (audio.slots index).isSome then
    { audio with
      slots := Function.update audio.slots index none
      buffered := audio.buffered - 1
      discontinuity := true }
  else audio

/-- The first packet sets the sequence number that is expected. -/
def begin (sequence : UInt16) : AirPlayMirrorAudio :=
  if audio.sequenceReady then audio
  else { audio with expectedSequence := sequence, sequenceReady := true }

end AirPlayMirrorAudio

/-! ## Packets -/

section Packets

-- `airplay_crypto_aes_cbc_decrypt` with the key of the session, and whether there is memory
-- for the payload
variable (decrypt : List UInt8 → Option (List UInt8)) (allocated : Bool)

/-- `AIRPLAY_MIRROR_AUDIO_RTP_HEADER_SIZE` -/
def audioHeaderSize : ℕ := 12

/-- `AIRPLAY_MIRROR_AUDIO_MAX_PACKET` -/
def audioMaxPacket : ℕ := 32 * 1024

variable (packet : List UInt8)

/-- The byte at an offset. -/
def byteAt (offset : ℕ) : UInt8 := packet.getD offset 0

/-- `read_be16` -/
def audioReadBe16 (offset : ℕ) : UInt16 :=
  UInt16.ofNat (BigEndian.value ((packet.drop offset).take 2))

/-- `read_be32` -/
def audioReadBe32 (offset : ℕ) : UInt32 :=
  UInt32.ofNat (BigEndian.value ((packet.drop offset).take 4))

/-- `read_be64` -/
def audioReadBe64 (offset : ℕ) : UInt64 :=
  UInt64.ofNat (BigEndian.value ((packet.drop offset).take 8))

/-- The header of a packet is refused. -/
def audioPacketRefused : Bool :=
  decide (packet.length < audioHeaderSize ∨ audioMaxPacket < packet.length ∨
    byteAt packet 0 >>> 6 ≠ 2 ∨ byteAt packet 1 &&& 0x7f ≠ 96)

/-- A packet without sound: no payload, or the marker of an empty one. -/
def audioPacketEmpty : Bool :=
  decide (packet.drop audioHeaderSize = [] ∨
    packet.drop audioHeaderSize = [0x00, 0x68, 0x34, 0x00])

/-- The payload: whole cipher blocks are decrypted, the rest is in the clear. -/
def audioPayload : Option (List UInt8) :=
  let payload := packet.drop audioHeaderSize
  let encryptedSize := payload.length / 16 * 16
  (decrypt (payload.take encryptedSize)).map (· ++ payload.drop encryptedSize)

open AirPlayMirrorAudio in
/-- `airplay_mirror_audio_process_packet` -/
def airplayMirrorAudioProcessPacket (audio : AirPlayMirrorAudio) :
    Bool × List AirPlayMirrorAudioFrame × AirPlayMirrorAudio :=
  if audioPacketRefused packet then (false, [], audio)
  else if audioPacketEmpty packet then (true, [], audio)
  else
    let sequence := audioReadBe16 packet 2
    let audio := audio.begin sequence
    -- the difference, read as a signed number, is negative
    if 2 ^ 15 ≤ (sequence - audio.expectedSequence).toNat then (true, [], audio)
    else
      let audio := audio.makeRoom sequence
      if (audio.slots (slotIndex sequence)).any (·.sequence = sequence) then (true, [], audio)
      else
        let audio := audio.evict (slotIndex sequence)
        if allocated = false then (false, [], audio)
        else
          match audioPayload decrypt packet with
          | none => (false, [], audio)
          | some data => (true, audio.deliver ⟨data, sequence, audioReadBe32 packet 4⟩)

/-- `airplay_mirror_audio_process_control_packet`; a sync packet is passed on, it changes
nothing here. -/
def airplayMirrorAudioProcessControlPacket (audio : AirPlayMirrorAudio) :
    Bool × List AirPlayMirrorAudioFrame × AirPlayMirrorAudio :=
  if packet.length < 4 ∨ byteAt packet 0 >>> 6 ≠ 2 then (false, [], audio)
  else if byteAt packet 1 &&& 0x7f = 0x56 then
    if packet.length < 4 + audioHeaderSize then (false, [], audio)
    else airplayMirrorAudioProcessPacket decrypt allocated (packet.drop 4) audio
  else if byteAt packet 1 &&& 0x7f ≠ 0x54 ∨ packet.length < 20 then (false, [], audio)
  else (decide (audioReadBe64 packet 8 ≠ 0), [], audio)

/-- What happens to a receiver. -/
inductive AudioEvent where
  | data (packet : List UInt8)
  | control (packet : List UInt8)
  | setRecording (recording : Bool)
deriving DecidableEq

/-- One event: the frames it delivers, and the receiver after it. -/
def audioStep (event : AudioEvent) (audio : AirPlayMirrorAudio) :
    List AirPlayMirrorAudioFrame × AirPlayMirrorAudio :=
  match event with
  | .data packet => (airplayMirrorAudioProcessPacket decrypt allocated packet audio).2
  | .control packet => (airplayMirrorAudioProcessControlPacket decrypt allocated packet audio).2
  | .setRecording recording => ([], { audio with recording })

/-- A run of events. -/
def audioRun : List AudioEvent → AirPlayMirrorAudio →
    List AirPlayMirrorAudioFrame × AirPlayMirrorAudio
  | [], audio => ([], audio)
  | event :: events, audio =>
    let (frames, audio) := audioStep decrypt allocated event audio
    let (later, audio) := audioRun events audio
    (frames ++ later, audio)

end Packets

end NXCast
