import NXCast.Mirror.Audio

/-!
# The order of audio frames

What holds of the reorder window between packets (`AudioWindowed`, `buffered ≤ 2`), and what
the frames that leave it look like (`FramesInOrder`).  Both follow from one account of the
loop that empties the head of the window: it moves the expected number on by one for every
frame it delivers.
-/

namespace NXCast

open Slots AirPlayMirrorAudio Function Option

/-! ## Sequence numbers -/

lemma toNat_sub16 (a b : UInt16) :
    (a - b).toNat = (2 ^ 16 - b.toNat + a.toNat) % 2 ^ 16 := UInt16.toNat_sub a b

lemma toNat_succ16 (a : UInt16) : (a + 1).toNat = (a.toNat + 1) % 2 ^ 16 := by
  rfl

lemma eq_of_slotIndex {a b e : UInt16} (ha : (a - e).toNat < 64) (hb : (b - e).toNat < 64)
    (h : slotIndex a = slotIndex b) : a = b := by
  have hmod : a.toNat % 64 = b.toNat % 64 := Fin.mk.inj h
  have hbounds := And.intro a.toNat_lt (And.intro b.toNat_lt e.toNat_lt)
  rw [toNat_sub16] at ha hb
  apply UInt16.toNat_inj.mp
  omega

lemma sub_succ_lt {a e : UInt16} (h : (a - e).toNat < 64) (hne : a ≠ e) :
    (a - (e + 1)).toNat < 64 := by
  have hbounds := And.intro a.toNat_lt e.toNat_lt
  have hne' : a.toNat ≠ e.toNat := fun heq => hne (UInt16.toNat_inj.mp heq)
  rw [toNat_sub16] at h ⊢
  rw [toNat_succ16]
  omega

/-! ## The window -/

/-- What holds of the slots at any time. -/
structure AudioWindowed (audio : AirPlayMirrorAudio) : Prop where
  place : ∀ index slot, audio.slots index = some slot → slotIndex slot.sequence = index
  near : ∀ index slot, audio.slots index = some slot →
    (slot.sequence - audio.expectedSequence).toNat < 64
  counted : audio.buffered = audio.filled
  fresh : audio.sequenceReady = false → ∀ index, audio.slots index = none

lemma audioWindowed_created : AudioWindowed created where
  place _ _ h := by cases h
  near _ _ h := by cases h
  counted := count_none.symm
  fresh _ _ := rfl

lemma AudioWindowed.advance {audio : AirPlayMirrorAudio} {slot : AirPlayAudioSlot}
    (h : AudioWindowed audio) (hhead : audio.head? = some slot) : AudioWindowed audio.advance := by
  obtain ⟨hready, hslot, hsequence⟩ := head?_eq_some hhead
  have hother : ∀ index other, audio.advance.slots index = some other →
      audio.slots index = some other ∧ other.sequence ≠ audio.expectedSequence := by
    intro index other hother
    by_cases hindex : index = slotIndex audio.expectedSequence
    · rw [hindex] at hother
      cases (update_self _ _ audio.slots).symm.trans hother
    have hkept : audio.slots index = some other :=
      (update_of_ne hindex _ _).symm.trans hother
    refine ⟨hkept, fun heq => hindex ?_⟩
    rw [← h.place index other hkept, heq]
  constructor
  · exact fun index other hmem => h.place index other (hother index other hmem).1
  · intro index other hmem
    obtain ⟨hkept, hne⟩ := hother index other hmem
    exact sub_succ_lt (h.near index other hkept) hne
  · have hfilled := filled_advance hhead
    have hcnt := h.counted
    show audio.buffered - 1 = audio.advance.filled
    omega
  · intro hfresh
    rw [show audio.advance.sequenceReady = audio.sequenceReady from rfl, hready] at hfresh
    cases hfresh

/-! ## The loop that empties the head of the window -/

section EmitReady

variable {audio : AirPlayMirrorAudio}

lemma emitReady_of_none (h : audio.head? = none) : audio.emitReady = ([], audio) := by
  rw [emitReady]
  split
  · rfl
  rename_i hsome
  rw [h] at hsome
  cases hsome

lemma emitReady_of_some {slot : AirPlayAudioSlot} (h : audio.head? = some slot) :
    audio.emitReady =
      (if audio.recording then audio.frame slot :: audio.advance.emitReady.1
        else audio.advance.emitReady.1, audio.advance.emitReady.2) := by
  rw [emitReady]
  split
  · rename_i hnone
    rw [h] at hnone
    cases hnone
  · rename_i other hsome
    rw [h] at hsome
    cases hsome
    rfl

lemma emitReady_windowed (h : AudioWindowed audio) :
    AudioWindowed audio.emitReady.2 ∧ audio.emitReady.2.head? = none ∧
      audio.emitReady.2.buffered ≤ audio.buffered ∧
      audio.emitReady.2.recording = audio.recording ∧
      audio.emitReady.2.sequenceReady = audio.sequenceReady := by
  induction audio using emitReady.induct with
  | case1 audio hnone =>
    rw [emitReady_of_none hnone]
    exact ⟨h, hnone, le_rfl, rfl, rfl⟩
  | case2 audio slot hsome _ _ _ ih =>
    obtain ⟨hwindowed, hhead, hbuffered, hrec, hready⟩ := ih (h.advance hsome)
    rw [emitReady_of_some hsome]
    refine ⟨hwindowed, hhead, hbuffered.trans ?_, hrec, hready⟩
    exact Nat.sub_le _ _

lemma emitReady_buffered {slot : AirPlayAudioSlot} (h : AudioWindowed audio)
    (hhead : audio.head? = some slot) : audio.emitReady.2.buffered + 1 ≤ audio.buffered := by
  obtain ⟨-, -, hbuffered, -⟩ := emitReady_windowed (h.advance hhead)
  have hfilled := filled_advance hhead
  have hcnt := h.counted
  rw [emitReady_of_some hhead]
  have hadvance : audio.advance.buffered = audio.buffered - 1 := rfl
  simp only
  omega

end EmitReady

/-! ## Frames in order -/

/-- The law of two frames that are delivered one after the other. -/
structure FrameFollows (a b : AirPlayMirrorAudioFrame) : Prop where
  one_le : 1 ≤ (b.sequence - a.sequence).toNat
  le_half : (b.sequence - a.sequence).toNat ≤ 32768
  next : b.discontinuity = false → b.sequence = a.sequence + 1

/-- Frames that have been delivered in order. -/
abbrev FramesInOrder (frames : List AirPlayMirrorAudioFrame) : Prop := frames.IsChain FrameFollows

/-- The window may go on behind the frames that have been delivered: the expected number lies
ahead, and anything but the next one is marked. -/
structure AudioReaches (frames : List AirPlayMirrorAudioFrame) (audio : AirPlayMirrorAudio) : Prop where
  order : FramesInOrder frames
  ready : ∀ last ∈ frames.getLast?, audio.sequenceReady = true
  one_le : ∀ last ∈ frames.getLast?, 1 ≤ (audio.expectedSequence - last.sequence).toNat
  le_half : ∀ last ∈ frames.getLast?, (audio.expectedSequence - last.sequence).toNat ≤ 32768
  next : audio.discontinuity = false →
    ∀ last ∈ frames.getLast?, audio.expectedSequence = last.sequence + 1

/-- The window goes on with the number after the last frame. -/
structure AudioAligned (frames : List AirPlayMirrorAudioFrame) (audio : AirPlayMirrorAudio) : Prop where
  order : FramesInOrder frames
  ready : ∀ last ∈ frames.getLast?, audio.sequenceReady = true
  next : ∀ last ∈ frames.getLast?, audio.expectedSequence = last.sequence + 1

lemma succ_sub_self (a : UInt16) : (a + 1 - a).toNat = 1 := by
  have hbound := a.toNat_lt
  rw [toNat_sub16, toNat_succ16]
  omega

section Order

variable {frames : List AirPlayMirrorAudioFrame} {audio : AirPlayMirrorAudio}
  {slot : AirPlayAudioSlot}

lemma AudioAligned.reaches (h : AudioAligned frames audio) : AudioReaches frames audio where
  order := h.order
  ready := h.ready
  one_le last hlast := by rw [h.next last hlast, succ_sub_self]
  le_half last hlast := by
    rw [h.next last hlast, succ_sub_self]
    decide
  next _ := h.next

lemma AudioReaches.advance (h : AudioReaches frames audio) (hhead : audio.head? = some slot) :
    AudioAligned (frames ++ [audio.frame slot]) audio.advance := by
  obtain ⟨hready, -, hsequence⟩ := head?_eq_some hhead
  have hframe : (audio.frame slot).sequence = audio.expectedSequence := hsequence
  refine ⟨?_, fun _ _ => hready, fun last hlast => ?_⟩
  · refine List.isChain_append.mpr ⟨h.order, List.isChain_singleton _, ?_⟩
    intro last hlast next hnext
    cases hnext
    refine ⟨?_, ?_, fun hdiscontinuity => ?_⟩
    · rw [hframe]
      exact h.one_le last hlast
    · rw [hframe]
      exact h.le_half last hlast
    · rw [hframe]
      exact h.next hdiscontinuity last hlast
  · rw [List.getLast?_append, List.getLast?_singleton, some_or] at hlast
    cases hlast
    rw [hframe]
    rfl

lemma AudioAligned.emitReady (h : AudioAligned frames audio) (hrec : audio.recording) :
    AudioAligned (frames ++ audio.emitReady.1) audio.emitReady.2 := by
  induction audio using emitReady.induct generalizing frames with
  | case1 audio hnone =>
    rw [emitReady_of_none hnone, List.append_nil]
    exact h
  | case2 audio slot hsome _ _ _ ih =>
    have hrest := ih (h.reaches.advance hsome) hrec
    rw [emitReady_of_some hsome, if_pos hrec]
    rwa [List.append_assoc] at hrest

lemma AudioReaches.emitReady (h : AudioReaches frames audio) (hrec : audio.recording)
    (hhead : audio.head? = some slot) :
    AudioAligned (frames ++ audio.emitReady.1) audio.emitReady.2 := by
  have hrest := (h.advance hhead).emitReady hrec
  rw [emitReady_of_some hhead, if_pos hrec]
  rwa [List.append_assoc] at hrest

end Order

/-! ## Gaps -/

section Nearest

variable {audio : AirPlayMirrorAudio}

/-- How far ahead a slot lies. -/
def AirPlayMirrorAudio.distance (audio : AirPlayMirrorAudio) (slot : AirPlayAudioSlot) : UInt16 :=
  slot.sequence - audio.expectedSequence

lemma nearest_foldl (audio : AirPlayMirrorAudio) (indices : List (Fin audioWindow))
    (best : UInt16 × UInt16) :
    let found := indices.foldl
      (fun best index =>
        match audio.slots index with
        | none => best
        | some slot =>
          if slot.sequence - audio.expectedSequence < best.2 then
            (slot.sequence, slot.sequence - audio.expectedSequence)
          else best) best
    (found = best ∨ ∃ index slot, audio.slots index = some slot ∧
        found = (slot.sequence, audio.distance slot)) ∧
      found.2 ≤ best.2 ∧
      ∀ index ∈ indices, ∀ slot, audio.slots index = some slot → found.2 ≤ audio.distance slot := by
  induction indices generalizing best with
  | nil => exact ⟨.inl rfl, UInt16.le_refl _, fun _ h => by cases h⟩
  | cons index indices ih =>
    simp only [List.foldl_cons]
    cases hslot : audio.slots index with
    | none =>
      obtain ⟨hfound, hle, hall⟩ := ih best
      refine ⟨hfound, hle, fun other hmem slot hother => ?_⟩
      rcases List.mem_cons.mp hmem with rfl | hmem
      · rw [hslot] at hother
        cases hother
      · exact hall other hmem slot hother
    | some slot =>
      simp only
      split_ifs with hless
      · obtain ⟨hfound, hle, hall⟩ := ih (slot.sequence, slot.sequence - audio.expectedSequence)
        refine ⟨?_, UInt16.le_trans hle (UInt16.le_of_lt hless), fun other hmem slot' hother => ?_⟩
        · rcases hfound with hsame | hother
          · exact .inr ⟨index, slot, hslot, hsame⟩
          · exact .inr hother
        rcases List.mem_cons.mp hmem with rfl | hmem
        · rw [hslot] at hother
          cases hother
          exact hle
        · exact hall other hmem slot' hother
      · obtain ⟨hfound, hle, hall⟩ := ih best
        refine ⟨hfound, hle, fun other hmem slot' hother => ?_⟩
        rcases List.mem_cons.mp hmem with rfl | hmem
        · rw [hslot] at hother
          cases hother
          exact UInt16.le_trans hle (UInt16.not_lt.mp hless)
        · exact hall other hmem slot' hother

lemma nearest_spec (h : AudioWindowed audio) (hfilled : 0 < audio.filled) :
    ∃ index slot, audio.slots index = some slot ∧
      audio.nearest = (slot.sequence, audio.distance slot) ∧
      ∀ other slot', audio.slots other = some slot' → audio.distance slot ≤ audio.distance slot' := by
  obtain ⟨hfound, -, hall⟩ :=
    nearest_foldl audio (List.finRange audioWindow) (0, 0xffff)
  obtain ⟨index₀, slot₀, hslot₀, -⟩ := exists_of_count_pos hfilled
  have hnear := h.near _ _ hslot₀
  have hle := hall index₀ (List.mem_finRange _) slot₀ hslot₀
  rcases hfound with hnone | ⟨index, slot, hslot, heq⟩
  · -- the start value is farther than any slot
    rw [hnone] at hle
    rw [UInt16.le_iff_toNat_le] at hle
    have hbig : ((0xffff : UInt16)).toNat = 65535 := rfl
    have hsmall : (audio.distance slot₀).toNat < 64 := hnear
    simp only [hbig] at hle
    omega
  · refine ⟨index, slot, hslot, heq, fun other slot' hother => ?_⟩
    have hle' := hall other (List.mem_finRange _) slot' hother
    rwa [heq] at hle'

variable {slot : AirPlayAudioSlot} {index : Fin audioWindow}

variable (h : AudioWindowed audio)

include h

lemma AudioWindowed.skipTo (hslot : audio.slots index = some slot)
    (hle : ∀ other slot', audio.slots other = some slot' → audio.distance slot ≤ audio.distance
      slot') :
    AudioWindowed { audio with expectedSequence := slot.sequence, discontinuity := true } where
  place := h.place
  near other slot' hother := by
    have hnear := h.near index slot hslot
    have hnear' := h.near other slot' hother
    have hle' : (slot.sequence - audio.expectedSequence).toNat ≤
        (slot'.sequence - audio.expectedSequence).toNat :=
      UInt16.le_iff_toNat_le.mp (hle other slot' hother)
    have hbounds := And.intro slot.sequence.toNat_lt
      (And.intro slot'.sequence.toNat_lt audio.expectedSequence.toNat_lt)
    show (slot'.sequence - slot.sequence).toNat < 64
    rw [toNat_sub16] at hnear hnear' hle' ⊢
    rw [toNat_sub16] at hle'
    omega
  counted := h.counted
  fresh := h.fresh

variable (hready : audio.sequenceReady)

include hready

lemma head?_skipTo (hslot : audio.slots index = some slot) :
    head? { audio with expectedSequence := slot.sequence, discontinuity := true } = some slot := by
  unfold head?
  rw [if_pos hready]
  simp only [h.place index slot hslot, hslot, filter_some, decide_true, if_true]

lemma one_le_distance (hhead : audio.head? = none) (hslot : audio.slots index = some slot) :
    1 ≤ (audio.distance slot).toNat := by
  by_contra hzero
  have hsame : slot.sequence = audio.expectedSequence := by
    have hbounds := And.intro slot.sequence.toNat_lt audio.expectedSequence.toNat_lt
    rw [distance, toNat_sub16] at hzero
    apply UInt16.toNat_inj.mp
    omega
  have hindex := h.place index slot hslot
  rw [hsame] at hindex
  unfold head? at hhead
  rw [if_pos hready, hindex, hslot] at hhead
  simp [hsame] at hhead

lemma skipGap_spec (hhead : audio.head? = none) :
    (audio.buffered < 3 ∧ audio.skipGapIfNeeded = audio) ∨
      ∃ index slot, audio.slots index = some slot ∧
        audio.skipGapIfNeeded =
          { audio with expectedSequence := slot.sequence, discontinuity := true } ∧
        AudioWindowed audio.skipGapIfNeeded ∧ audio.skipGapIfNeeded.head? = some slot := by
  unfold skipGapIfNeeded
  split
  · rename_i hfew
    exact .inl ⟨hfew, rfl⟩
  rename_i hmany
  have hfilled : 0 < audio.filled := by
    rw [← h.counted]
    omega
  obtain ⟨index, slot, hslot, hnearest, hle⟩ := nearest_spec h hfilled
  have hone := one_le_distance h hready hhead hslot
  have hnear : (audio.distance slot).toNat < 64 := h.near index slot hslot
  rw [hnearest, if_pos]
  · exact .inr ⟨index, slot, hslot, rfl, h.skipTo hslot hle, head?_skipTo h hready hslot⟩
  constructor
  · intro hmax
    rw [show (audio.distance slot) = 0xffff from hmax] at hnear
    exact absurd hnear (by decide)
  · intro hzero
    rw [show (audio.distance slot) = 0 from hzero] at hone
    exact absurd hone (by decide)

end Nearest

/-! ## One packet -/

section Deliver

variable {audio : AirPlayMirrorAudio} {slot : AirPlayAudioSlot}

/-- The window with one packet more. -/
def AirPlayMirrorAudio.put (audio : AirPlayMirrorAudio) (slot : AirPlayAudioSlot) :
    AirPlayMirrorAudio :=
  { audio with
    slots := Function.update audio.slots (slotIndex slot.sequence) (some slot)
    buffered := audio.buffered + 1 }

/-- A packet fits: the window has begun, it lies in it, and its slot is free. -/
structure AudioFits (audio : AirPlayMirrorAudio) (slot : AirPlayAudioSlot) : Prop where
  ready : audio.sequenceReady = true
  near : (slot.sequence - audio.expectedSequence).toNat < 64
  free : audio.slots (slotIndex slot.sequence) = none

lemma AudioWindowed.put (h : AudioWindowed audio) (hfits : AudioFits audio slot) :
    AudioWindowed (audio.put slot) := by
  have hcases : ∀ index other, (audio.put slot).slots index = some other →
      (index = slotIndex slot.sequence ∧ other = slot) ∨ audio.slots index = some other := by
    intro index other hother
    by_cases hindex : index = slotIndex slot.sequence
    · rw [hindex] at hother
      cases (update_self _ _ audio.slots).symm.trans hother
      exact .inl ⟨hindex, rfl⟩
    · exact .inr ((update_of_ne hindex _ _).symm.trans hother)
  constructor
  · intro index other hother
    rcases hcases index other hother with ⟨rfl, rfl⟩ | hkept
    · rfl
    · exact h.place index other hkept
  · intro index other hother
    rcases hcases index other hother with ⟨-, rfl⟩ | hkept
    · exact hfits.near
    · exact h.near index other hkept
  · show audio.buffered + 1 = count _ (update audio.slots (slotIndex slot.sequence) (some slot))
    rw [count_fill hfits.free, worth_some_of_pos rfl, h.counted]
    rfl
  · intro hfresh
    rw [show (audio.put slot).sequenceReady = audio.sequenceReady from rfl, hfits.ready] at hfresh
    cases hfresh

lemma head?_put (hready : audio.sequenceReady)
    (hsequence : slot.sequence = audio.expectedSequence) : (audio.put slot).head? = some slot := by
  unfold head?
  rw [if_pos (show (audio.put slot).sequenceReady = true from hready)]
  simp only [put, ← hsequence, update_self, filter_some, decide_true, if_true]

/-- What holds between packets. -/
structure AudioSound (audio : AirPlayMirrorAudio) : Prop extends AudioWindowed audio where
  few : audio.buffered ≤ 2

lemma AudioWindowed.deliver (h : AudioWindowed audio) (hfew : audio.buffered ≤ 2)
    (hfits : AudioFits audio slot) :
    AudioSound (audio.deliver slot).2 ∧ (audio.deliver slot).2.recording = audio.recording := by
  obtain ⟨hwindowed, hhead, hbuffered, hrec, hready⟩ := emitReady_windowed (h.put hfits)
  have hput : (audio.put slot).buffered = audio.buffered + 1 := rfl
  have hready' : (audio.put slot).emitReady.2.sequenceReady := hready.trans hfits.ready
  show AudioSound ((audio.put slot).emitReady.2.skipGapIfNeeded.emitReady).2 ∧
    ((audio.put slot).emitReady.2.skipGapIfNeeded.emitReady).2.recording = audio.recording
  rcases skipGap_spec hwindowed hready' hhead with ⟨hless, hsame⟩ | ⟨_, slot', -, heq, hskip, hhead'⟩
  · rw [hsame, emitReady_of_none hhead]
    exact ⟨⟨hwindowed, Nat.lt_succ_iff.mp hless⟩, hrec⟩
  obtain ⟨hwindowed', -, -, hrec', -⟩ := emitReady_windowed hskip
  have hless := emitReady_buffered hskip hhead'
  refine ⟨⟨hwindowed', ?_⟩, hrec'.trans ?_⟩
  · have hskipped : (audio.put slot).emitReady.2.skipGapIfNeeded.buffered =
        (audio.put slot).emitReady.2.buffered := by rw [heq]
    omega
  · rw [heq]
    exact hrec

lemma AudioReaches.deliver {frames : List AirPlayMirrorAudioFrame} (h : AudioWindowed audio)
    (hfits : AudioFits audio slot) (hrec : audio.recording)
    (hreaches : AudioAligned frames audio ∨ (AudioReaches frames audio ∧ slot.sequence = audio.expectedSequence)) :
    AudioAligned (frames ++ (audio.deliver slot).1) (audio.deliver slot).2 := by
  obtain ⟨hwindowed, hhead, -, hrec', hready⟩ := emitReady_windowed (h.put hfits)
  have hready' : (audio.put slot).emitReady.2.sequenceReady := hready.trans hfits.ready
  have hon : (audio.put slot).emitReady.2.recording := hrec'.trans hrec
  have hfirst : AudioAligned (frames ++ (audio.put slot).emitReady.1) (audio.put slot).emitReady.2 := by
    rcases hreaches with haligned | ⟨hreaches, hsequence⟩
    · have hput : AudioAligned frames (audio.put slot) := ⟨haligned.order, haligned.ready, haligned.next⟩
      exact hput.emitReady hrec
    · have hput : AudioReaches frames (audio.put slot) :=
        ⟨hreaches.order, hreaches.ready, hreaches.one_le, hreaches.le_half, hreaches.next⟩
      exact hput.emitReady hrec (head?_put hfits.ready hsequence)
  show AudioAligned (frames ++ ((audio.put slot).emitReady.1 ++
    (audio.put slot).emitReady.2.skipGapIfNeeded.emitReady.1))
    (audio.put slot).emitReady.2.skipGapIfNeeded.emitReady.2
  rw [← List.append_assoc]
  rcases skipGap_spec hwindowed hready' hhead with ⟨-, hsame⟩ | ⟨index, slot', hslot', heq, -, hhead'⟩
  · rw [hsame, emitReady_of_none hhead, List.append_nil]
    exact hfirst
  -- the frame behind the gap is marked, and lies less than a window ahead
  have hone := one_le_distance hwindowed hready' hhead hslot'
  have hnear := hwindowed.near index slot' hslot'
  have hskip : AudioReaches (frames ++ (audio.put slot).emitReady.1)
      (audio.put slot).emitReady.2.skipGapIfNeeded := by
    rw [heq]
    refine ⟨hfirst.order, hfirst.ready, ?_, ?_, fun hmark => by cases hmark⟩
    · intro last hlast
      have hnext := hfirst.next last hlast
      have hbounds := And.intro slot'.sequence.toNat_lt last.sequence.toNat_lt
      rw [hnext, toNat_sub16, toNat_succ16] at hnear
      show 1 ≤ (slot'.sequence - last.sequence).toNat
      rw [toNat_sub16]
      omega
    · intro last hlast
      have hnext := hfirst.next last hlast
      have hbounds := And.intro slot'.sequence.toNat_lt last.sequence.toNat_lt
      rw [hnext, toNat_sub16, toNat_succ16] at hnear
      show (slot'.sequence - last.sequence).toNat ≤ 32768
      rw [toNat_sub16]
      omega
  refine hskip.emitReady ?_ hhead'
  rw [heq]
  exact hon

end Deliver

/-! ## What is delivered was fed -/

section Contents

variable {audio : AirPlayMirrorAudio} {slot : AirPlayAudioSlot}

/-- The packet that a frame shows. -/
def AirPlayMirrorAudioFrame.content (frame : AirPlayMirrorAudioFrame) : AirPlayAudioSlot :=
  ⟨frame.data, frame.sequence, frame.rtpTimestamp⟩

/-- How often a packet waits in the window. -/
def AirPlayMirrorAudio.waiting (audio : AirPlayMirrorAudio) (packet : AirPlayAudioSlot) : ℕ :=
  count (fun slot => decide (slot = packet)) audio.slots

/-- How often a packet is among some frames. -/
def delivered (frames : List AirPlayMirrorAudioFrame) (packet : AirPlayAudioSlot) : ℕ :=
  (frames.map (·.content)).count packet

lemma delivered_append (frames later : List AirPlayMirrorAudioFrame) (packet : AirPlayAudioSlot) :
    delivered (frames ++ later) packet = delivered frames packet + delivered later packet := by
  rw [delivered, List.map_append, List.count_append]
  rfl

lemma waiting_advance (hhead : audio.head? = some slot) (packet : AirPlayAudioSlot) :
    delivered [audio.frame slot] packet + audio.advance.waiting packet = audio.waiting packet := by
  obtain ⟨-, hslot, -⟩ := head?_eq_some hhead
  have hclear := count_clear (p := fun slot => decide (slot = packet)) hslot
  have hdelivered : delivered [audio.frame slot] packet =
      worth (fun slot => decide (slot = packet)) (some slot) := by
    show List.count packet [slot] = _
    rw [List.count_singleton, worth_some]
    simp only [beq_iff_eq, decide_eq_true_eq]
  rw [hdelivered, Nat.add_comm]
  exact hclear

lemma emitReady_waiting (audio : AirPlayMirrorAudio) (packet : AirPlayAudioSlot) :
    delivered audio.emitReady.1 packet + audio.emitReady.2.waiting packet ≤
      audio.waiting packet := by
  induction audio using emitReady.induct with
  | case1 audio hnone =>
    rw [emitReady_of_none hnone]
    exact (Nat.zero_add _).le
  | case2 audio slot hsome _ _ _ ih =>
    have hadvance := waiting_advance hsome packet
    rw [emitReady_of_some hsome]
    split
    · have hcons := delivered_append [audio.frame slot] audio.advance.emitReady.1 packet
      rw [List.singleton_append] at hcons
      show delivered (audio.frame slot :: audio.advance.emitReady.1) packet +
        audio.advance.emitReady.2.waiting packet ≤ audio.waiting packet
      omega
    · exact ih.trans (by omega)

lemma deliver_waiting (hfree : audio.slots (slotIndex slot.sequence) = none)
    (packet : AirPlayAudioSlot) :
    delivered (audio.deliver slot).1 packet + (audio.deliver slot).2.waiting packet ≤
      audio.waiting packet + [slot].count packet := by
  have hput : (audio.put slot).waiting packet = audio.waiting packet + [slot].count packet := by
    have hfill := count_fill (p := fun slot => decide (slot = packet)) hfree slot
    rw [List.count_singleton]
    simp only [worth_some, decide_eq_true_eq] at hfill
    simp only [beq_iff_eq]
    exact hfill
  have hfirst := emitReady_waiting (audio.put slot) packet
  have hsnd := emitReady_waiting (audio.put slot).emitReady.2.skipGapIfNeeded packet
  have hskip : (audio.put slot).emitReady.2.skipGapIfNeeded.waiting packet =
      (audio.put slot).emitReady.2.waiting packet := by
    unfold skipGapIfNeeded
    split
    · rfl
    · split
      all_goals rfl
  have happend := delivered_append (audio.put slot).emitReady.1
    (audio.put slot).emitReady.2.skipGapIfNeeded.emitReady.1 packet
  show delivered ((audio.put slot).emitReady.1 ++
      (audio.put slot).emitReady.2.skipGapIfNeeded.emitReady.1) packet +
    (audio.put slot).emitReady.2.skipGapIfNeeded.emitReady.2.waiting packet ≤ _
  omega

end Contents

/-! ## Looking at a packet -/

section Process

variable {decrypt : List UInt8 → Option (List UInt8)} {audio : AirPlayMirrorAudio}
  {sequence : UInt16}

/-- What a packet carries, if it carries sound. -/
def packetSlot (decrypt : List UInt8 → Option (List UInt8)) (packet : List UInt8) :
    Option AirPlayAudioSlot :=
  if audioPacketRefused packet ∨ audioPacketEmpty packet then none
  else
    (audioPayload decrypt packet).map fun data =>
      ⟨data, audioReadBe16 packet 2, audioReadBe32 packet 4⟩

/-- Beginning keeps the window, and puts it at the packet if it is the first. -/
lemma AudioSound.begin (h : AudioSound audio) (sequence : UInt16) :
    AudioSound (audio.begin sequence) ∧ (audio.begin sequence).sequenceReady ∧
      (audio.begin sequence).recording = audio.recording ∧
      (audio.begin sequence).slots = audio.slots ∧
      (audio.begin sequence = audio ∨
        (audio.sequenceReady = false ∧ (audio.begin sequence).expectedSequence = sequence)) := by
  unfold AirPlayMirrorAudio.begin
  split_ifs with hready
  · exact ⟨h, hready, rfl, rfl, .inl rfl⟩
  rw [Bool.not_eq_true] at hready
  refine ⟨⟨⟨h.place, ?_, h.counted, fun hfresh => by cases hfresh⟩, h.few⟩, rfl, rfl, rfl,
    .inr ⟨hready, rfl⟩⟩
  intro index slot hslot
  rw [h.fresh hready index] at hslot
  cases hslot

lemma AudioSound.makeRoom (h : AudioSound audio) (hready : audio.sequenceReady)
    (sequence : UInt16) :
    AudioSound (audio.makeRoom sequence) ∧ (audio.makeRoom sequence).sequenceReady ∧
      (audio.makeRoom sequence).recording = audio.recording ∧
      (sequence - (audio.makeRoom sequence).expectedSequence).toNat < 64 ∧
      (audio.makeRoom sequence = audio ∨
        (64 ≤ (sequence - audio.expectedSequence).toNat ∧
          (audio.makeRoom sequence).expectedSequence = sequence ∧
          (audio.makeRoom sequence).discontinuity ∧
          ∀ index, (audio.makeRoom sequence).slots index = none)) := by
  unfold AirPlayMirrorAudio.makeRoom
  split_ifs with hfar
  · refine ⟨⟨⟨?_, ?_, count_none.symm, fun _ _ => rfl⟩, Nat.zero_le _⟩, hready, rfl, ?_,
      .inr ⟨hfar, rfl, rfl, fun _ => rfl⟩⟩
    · intro index slot hslot
      cases hslot
    · intro index slot hslot
      cases hslot
    · show (sequence - sequence).toNat < 64
      rw [UInt16.sub_self]
      decide
  · exact ⟨h, hready, rfl, Nat.lt_of_not_le hfar, .inl rfl⟩

lemma AudioWindowed.free (h : AudioWindowed audio)
    (hnear : (sequence - audio.expectedSequence).toNat < 64)
    (hnot : (audio.slots (slotIndex sequence)).any (·.sequence = sequence) = false) :
    audio.slots (slotIndex sequence) = none := by
  cases hslot : audio.slots (slotIndex sequence) with
  | none => rfl
  | some slot =>
    have hsame : slot.sequence = sequence :=
      eq_of_slotIndex (h.near _ slot hslot) hnear (h.place _ slot hslot)
    rw [hslot, any_some, decide_eq_false_iff_not] at hnot
    exact absurd hsame hnot

/-- What looking at a packet comes to: nothing happens, or it is delivered to a window that
has room for it. -/
structure AudioRoom (audio room : AirPlayMirrorAudio) (slot : AirPlayAudioSlot) : Prop where
  sound : AudioSound room
  fits : AudioFits room slot
  recording : room.recording = audio.recording
  waiting : ∀ packet, room.waiting packet ≤ audio.waiting packet
  aligned : ∀ frames, AudioAligned frames audio →
    AudioAligned frames room ∨ (AudioReaches frames room ∧ slot.sequence = room.expectedSequence)

variable (h : AudioSound audio)

include h

lemma AudioSound.room (slot : AirPlayAudioSlot)
    (hahead : (slot.sequence - (audio.begin slot.sequence).expectedSequence).toNat < 2 ^ 15)
    (hfree : (((audio.begin slot.sequence).makeRoom slot.sequence).slots
      (slotIndex slot.sequence)).any (·.sequence = slot.sequence) = false) :
    AudioRoom audio ((audio.begin slot.sequence).makeRoom slot.sequence) slot := by
  obtain ⟨hbegin, hready, hrec, hslots, hfirst⟩ := h.begin slot.sequence
  obtain ⟨hroom, hready', hrec', hnear, hjump⟩ := hbegin.makeRoom hready slot.sequence
  refine ⟨hroom, ⟨hready', hnear, hroom.toAudioWindowed.free hnear hfree⟩,
    hrec'.trans hrec, fun packet => ?_, fun frames haligned => ?_⟩
  · rcases hjump with hsame | ⟨-, -, -, hempty⟩
    · rw [hsame, waiting, hslots]
      exact le_rfl
    have hnone : ((audio.begin slot.sequence).makeRoom slot.sequence).slots = fun _ => none :=
      funext hempty
    rw [waiting, hnone, count_none]
    exact Nat.zero_le _
  -- a window that has just begun has delivered nothing
  have hbegun : AudioAligned frames (audio.begin slot.sequence) := by
    rcases hfirst with hsame | ⟨hfresh, -⟩
    · rw [hsame]
      exact haligned
    · refine ⟨haligned.order, fun _ _ => hready, fun last hlast => ?_⟩
      rw [haligned.ready last hlast] at hfresh
      cases hfresh
  rcases hjump with hsame | ⟨hfar, hexp, hmark, -⟩
  · rw [hsame]
    exact .inl hbegun
  refine .inr ⟨⟨hbegun.order, fun _ _ => hready', ?_, ?_, ?_⟩, hexp.symm⟩
  · intro last hlast
    have hbounds := And.intro slot.sequence.toNat_lt last.sequence.toNat_lt
    rw [hbegun.next last hlast, toNat_sub16, toNat_succ16] at hahead
    rw [hexp, toNat_sub16]
    omega
  · intro last hlast
    have hbounds := And.intro slot.sequence.toNat_lt last.sequence.toNat_lt
    rw [hbegun.next last hlast, toNat_sub16, toNat_succ16] at hahead
    rw [hexp, toNat_sub16]
    omega
  · intro hunmarked
    rw [hmark] at hunmarked
    cases hunmarked

/-- A packet that is dropped as late or repeated leaves the receiver as it was. -/
lemma begin_of_late (sequence : UInt16)
    (hlate : 2 ^ 15 ≤ (sequence - (audio.begin sequence).expectedSequence).toNat) :
    audio.begin sequence = audio := by
  obtain ⟨-, -, -, -, hsame | ⟨-, hexp⟩⟩ := h.begin sequence
  · exact hsame
  · rw [hexp, UInt16.sub_self] at hlate
    exact absurd hlate (by decide)

lemma room_of_repeated (sequence : UInt16)
    (hrepeated : (((audio.begin sequence).makeRoom sequence).slots (slotIndex sequence)).any
      (·.sequence = sequence)) :
    (audio.begin sequence).makeRoom sequence = audio := by
  obtain ⟨hbegin, hready, -, hslots, hfirst⟩ := h.begin sequence
  obtain ⟨-, -, -, -, hsame | ⟨-, -, -, hempty⟩⟩ := hbegin.makeRoom hready sequence
  · rcases hfirst with hsame' | ⟨hfresh, -⟩
    · rw [hsame, hsame']
    · rw [hsame, hslots, h.fresh hfresh] at hrepeated
      cases hrepeated
  · rw [hempty] at hrepeated
    cases hrepeated

/-- **One packet.** -/
lemma processPacket_cases (hdec : ∀ data, (decrypt data).isSome) (packet : List UInt8) :
    (airplayMirrorAudioProcessPacket decrypt true packet audio).2 = ([], audio) ∨
      ∃ slot room, packetSlot decrypt packet = some slot ∧ AudioRoom audio room slot ∧
        (airplayMirrorAudioProcessPacket decrypt true packet audio).2 = room.deliver slot := by
  unfold airplayMirrorAudioProcessPacket
  split
  · exact .inl rfl
  rename_i hacc
  split
  · exact .inl rfl
  rename_i hsound
  dsimp only
  split
  · rename_i hlate
    exact .inl (by rw [begin_of_late h _ hlate])
  rename_i hahead
  split
  · rename_i hrepeated
    exact .inl (by rw [room_of_repeated h _ hrepeated])
  rename_i hfree
  rw [Bool.not_eq_true] at hfree
  obtain ⟨data, hdata⟩ := isSome_iff_exists.mp (hdec ((packet.drop audioHeaderSize).take
      ((packet.drop audioHeaderSize).length / 16 * 16)))
  have hpayload : ∃ payload, audioPayload decrypt packet = some payload :=
    ⟨_, by rw [audioPayload, hdata]; rfl⟩
  obtain ⟨payload, hpayload⟩ := hpayload
  have hroom := h.room ⟨payload, audioReadBe16 packet 2, audioReadBe32 packet 4⟩
    (Nat.lt_of_not_le hahead) hfree
  refine .inr ⟨⟨payload, audioReadBe16 packet 2, audioReadBe32 packet 4⟩, _, ?_, hroom, ?_⟩
  · rw [packetSlot, if_neg (by simp [hacc, hsound]), hpayload]
    rfl
  have hevict : ((audio.begin (audioReadBe16 packet 2)).makeRoom
      (audioReadBe16 packet 2)).evict (slotIndex (audioReadBe16 packet 2)) =
      (audio.begin (audioReadBe16 packet 2)).makeRoom (audioReadBe16 packet 2) := by
    rw [evict, hroom.fits.free]
    rfl
  simp only [hevict, hpayload]
  rfl

end Process

/-! ## Runs -/

section Run

variable {decrypt : List UInt8 → Option (List UInt8)} {audio : AirPlayMirrorAudio}

/-- The packet of an event, if it has one that carries sound. -/
def eventSlot (decrypt : List UInt8 → Option (List UInt8)) : AudioEvent → Option AirPlayAudioSlot
  | .data packet => packetSlot decrypt packet
  | .control packet =>
    if byteAt packet 0 >>> 6 = 2 ∧ byteAt packet 1 &&& 0x7f = 0x56 then
      packetSlot decrypt (packet.drop 4)
    else none
  | .setRecording _ => none

/-- What an event does, given what it was fed. -/
structure AudioAdvance (audio : AirPlayMirrorAudio) (fed : List AirPlayAudioSlot)
    (outcome : List AirPlayMirrorAudioFrame × AirPlayMirrorAudio) : Prop where
  sound : AudioSound outcome.2
  waiting : ∀ packet, delivered outcome.1 packet + outcome.2.waiting packet ≤
    audio.waiting packet + fed.count packet

/-- An event of a receiver that goes on recording. -/
structure AudioDelivery (audio : AirPlayMirrorAudio)
    (outcome : List AirPlayMirrorAudioFrame × AirPlayMirrorAudio) : Prop where
  recording : outcome.2.recording = true
  aligned : ∀ frames, AudioAligned frames audio → AudioAligned (frames ++ outcome.1) outcome.2

lemma audioAdvance_nothing (h : AudioSound audio) (fed : List AirPlayAudioSlot) :
    AudioAdvance audio fed ([], audio) where
  sound := h
  waiting packet := by
    show 0 + audio.waiting packet ≤ audio.waiting packet + fed.count packet
    omega

lemma audioDelivery_nothing (hrec : audio.recording) :
    AudioDelivery audio ([], audio) where
  recording := hrec
  aligned frames h := by rwa [List.append_nil]

lemma processPacket_advance (h : AudioSound audio) (hdec : ∀ data, (decrypt data).isSome)
    (packet : List UInt8) :
    AudioAdvance audio (packetSlot decrypt packet).toList
      (airplayMirrorAudioProcessPacket decrypt true packet audio).2 := by
  rcases processPacket_cases h hdec packet with hnone | ⟨slot, room, hslot, hroom, heq⟩
  · rw [hnone]
    exact audioAdvance_nothing h _
  rw [heq, hslot]
  refine ⟨(hroom.sound.toAudioWindowed.deliver hroom.sound.few hroom.fits).1, fun packet => ?_⟩
  have hdeliver := deliver_waiting hroom.fits.free packet
  have hwait := hroom.waiting packet
  show _ ≤ audio.waiting packet + [slot].count packet
  omega

lemma processPacket_delivery (h : AudioSound audio) (hdec : ∀ data, (decrypt data).isSome)
    (hrec : audio.recording) (packet : List UInt8) :
    AudioDelivery audio (airplayMirrorAudioProcessPacket decrypt true packet audio).2 := by
  rcases processPacket_cases h hdec packet with hnone | ⟨slot, room, -, hroom, heq⟩
  · rw [hnone]
    exact audioDelivery_nothing hrec
  rw [heq]
  refine ⟨?_, fun frames haligned => ?_⟩
  · rw [(hroom.sound.toAudioWindowed.deliver hroom.sound.few hroom.fits).2, hroom.recording]
    exact hrec
  · exact AudioReaches.deliver hroom.sound.toAudioWindowed hroom.fits
      (hroom.recording.trans hrec) (hroom.aligned frames haligned)

lemma processControlPacket_cases (decrypt : List UInt8 → Option (List UInt8))
    (audio : AirPlayMirrorAudio) (packet : List UInt8) :
    (airplayMirrorAudioProcessControlPacket decrypt true packet audio).2 = ([], audio) ∨
      ((airplayMirrorAudioProcessControlPacket decrypt true packet audio).2 =
          (airplayMirrorAudioProcessPacket decrypt true (packet.drop 4) audio).2 ∧
        eventSlot decrypt (.control packet) = packetSlot decrypt (packet.drop 4)) := by
  unfold airplayMirrorAudioProcessControlPacket
  split
  · exact .inl rfl
  rename_i hversion
  rw [not_or, not_not] at hversion
  split
  · rename_i htype
    split
    · exact .inl rfl
    · exact .inr ⟨rfl, if_pos ⟨hversion.2, htype⟩⟩
  · split
    all_goals exact .inl rfl

lemma audioStep_advance (h : AudioSound audio) (hdec : ∀ data, (decrypt data).isSome)
    (event : AudioEvent) :
    AudioAdvance audio (eventSlot decrypt event).toList (audioStep decrypt true event audio) := by
  cases event with
  | data packet => exact processPacket_advance h hdec packet
  | control packet =>
    rcases processControlPacket_cases decrypt audio packet with
      hnone | ⟨hsame, hslot⟩
    · rw [audioStep, hnone]
      exact audioAdvance_nothing h _
    · rw [audioStep, hsame, hslot]
      exact processPacket_advance h hdec _
  | setRecording recording =>
    refine ⟨⟨⟨h.place, h.near, h.counted, h.fresh⟩, h.few⟩, fun packet => ?_⟩
    show 0 + audio.waiting packet ≤ audio.waiting packet + 0
    omega

lemma audioStep_delivery (h : AudioSound audio) (hdec : ∀ data, (decrypt data).isSome)
    (hrec : audio.recording) {event : AudioEvent} (hstays : event ≠ .setRecording false) :
    AudioDelivery audio (audioStep decrypt true event audio) := by
  cases event with
  | data packet => exact processPacket_delivery h hdec hrec packet
  | control packet =>
    rcases processControlPacket_cases decrypt audio packet with
      hnone | ⟨hsame, -⟩
    · rw [audioStep, hnone]
      exact audioDelivery_nothing hrec
    · rw [audioStep, hsame]
      exact processPacket_delivery h hdec hrec _
  | setRecording recording =>
    cases recording with
    | false => exact absurd rfl hstays
    | true =>
      refine ⟨rfl, fun frames haligned => ?_⟩
      rw [show (audioStep decrypt true (.setRecording true) audio).1 = [] from rfl, List.append_nil]
      exact ⟨haligned.order, haligned.ready, haligned.next⟩

/-- **Every run.**  The window stays sound, and what is delivered or waits was fed. -/
lemma audioRun_advance (hdec : ∀ data, (decrypt data).isSome) (events : List AudioEvent)
    (h : AudioSound audio) :
    AudioAdvance audio (events.filterMap (eventSlot decrypt)) (audioRun decrypt true events audio) := by
  induction events generalizing audio with
  | nil => exact audioAdvance_nothing h _
  | cons event events ih =>
    have hstep := audioStep_advance h hdec event
    have hrest := ih hstep.sound
    refine ⟨hrest.sound, fun packet => ?_⟩
    have hfirst := hstep.waiting packet
    have hlater := hrest.waiting packet
    have happend := delivered_append (audioStep decrypt true event audio).1
      (audioRun decrypt true events (audioStep decrypt true event audio).2).1 packet
    have hfed : ((event :: events).filterMap (eventSlot decrypt)).count packet =
        (eventSlot decrypt event).toList.count packet +
          (events.filterMap (eventSlot decrypt)).count packet := by
      cases hevent : eventSlot decrypt event with
      | none =>
        rw [List.filterMap_cons_none hevent]
        exact (Nat.zero_add _).symm
      | some slot =>
        rw [List.filterMap_cons_some hevent, toList_some, ← List.count_append]
        rfl
    show delivered ((audioStep decrypt true event audio).1 ++
        (audioRun decrypt true events (audioStep decrypt true event audio).2).1) packet +
      (audioRun decrypt true events (audioStep decrypt true event audio).2).2.waiting packet ≤ _
    omega

/-- **Every stretch of recording.**  Its frames are in order. -/
lemma audioRun_aligned (hdec : ∀ data, (decrypt data).isSome) (events : List AudioEvent)
    (h : AudioSound audio) (hrec : audio.recording)
    (hstays : ∀ event ∈ events, event ≠ .setRecording false) {frames : List AirPlayMirrorAudioFrame}
    (haligned : AudioAligned frames audio) :
    AudioAligned (frames ++ (audioRun decrypt true events audio).1)
      (audioRun decrypt true events audio).2 := by
  induction events generalizing audio frames with
  | nil =>
    rw [audioRun, List.append_nil]
    exact haligned
  | cons event events ih =>
    rw [List.forall_mem_cons] at hstays
    have hdelivery := audioStep_delivery h hdec hrec hstays.1
    have hrest := ih (audioStep_advance h hdec event).sound hdelivery.recording hstays.2
      (hdelivery.aligned frames haligned)
    rwa [List.append_assoc] at hrest

end Run

lemma audioSound_created : AudioSound created := ⟨audioWindowed_created, Nat.zero_le _⟩

/-- **The reorder law.**  Take any run of a receiver, and behind it any stretch in which
recording stays on.  The frames of the stretch follow one another: each lies 1 to 32768 ahead
of the one before, and exactly 1 unless it is marked.  In the whole run no packet is delivered
more often than it was fed.  At the end the buffered count is the number of filled slots, at
most 2, and each of them lies within 64 of the expected number. -/
theorem audio_reorder_law {decrypt : List UInt8 → Option (List UInt8)}
    (hdecrypt : ∀ data, (decrypt data).isSome) (before stretch : List AudioEvent)
    (hrecording : (audioRun decrypt true before created).2.recording = true)
    (hstays : ∀ event ∈ stretch, event ≠ .setRecording false) :
    let audio := (audioRun decrypt true before created).2
    let after := (audioRun decrypt true stretch audio).2
    FramesInOrder (audioRun decrypt true stretch audio).1 ∧
      (∀ packet, delivered (audioRun decrypt true before created).1 packet +
          delivered (audioRun decrypt true stretch audio).1 packet ≤
        ((before ++ stretch).filterMap (eventSlot decrypt)).count packet) ∧
      after.buffered = after.filled ∧ after.buffered ≤ 2 ∧
      ∀ index slot, after.slots index = some slot →
        (slot.sequence - after.expectedSequence).toNat < 64 := by
  have hbefore := audioRun_advance hdecrypt before audioSound_created
  have hafter := audioRun_advance hdecrypt stretch hbefore.sound
  refine ⟨?_, fun packet => ?_, hafter.sound.counted, hafter.sound.few, hafter.sound.near⟩
  · have haligned : AudioAligned [] (audioRun decrypt true before created).2 :=
      ⟨List.isChain_nil, fun _ h => (by cases h), fun _ h => (by cases h)⟩
    exact (audioRun_aligned hdecrypt stretch hbefore.sound hrecording hstays haligned).order
  have hempty : created.waiting packet = 0 := count_none
  have hfirst := hbefore.waiting packet
  have hsecond := hafter.waiting packet
  rw [List.filterMap_append, List.count_append]
  omega

/-- A packet of one byte of sound. -/
def audioPacket (high low : UInt8) : List UInt8 := [0x80, 96, high, low, 0, 0, 0, 0, 0, 0, 0, 0, 7]

/-- Packets around the wrap: one is late, one comes twice, one is lost, and one jumps ahead. -/
def audioStretch : List AudioEvent :=
  [.data (audioPacket 0xff 0xff), .data (audioPacket 0 1), .data (audioPacket 0 0),
    .data (audioPacket 0 0), .data (audioPacket 0 3), .data (audioPacket 0 4),
    .data (audioPacket 0 5), .data (audioPacket 0 2), .data (audioPacket 0x40 0)]

theorem audio_reorder_law_wrap :
    (((audioRun some true audioStretch (audioRun some true [.setRecording true] created).2).1.map
        fun frame => (frame.sequence, frame.discontinuity)) =
      [(65535, false), (0, false), (1, false), (3, true), (4, false), (5, false), (16384, true)]) ∧
      FramesInOrder
        (audioRun some true audioStretch (audioRun some true [.setRecording true] created).2).1 := by
  refine ⟨by decide +kernel, ?_⟩
  exact (audio_reorder_law (fun _ => rfl) [.setRecording true] audioStretch rfl (by decide)).1

end NXCast
