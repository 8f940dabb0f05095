import Mathlib.Data.List.Basic
import Mathlib.Tactic.Common

/-!
# Domain names on the wire

A domain name is a list of labels.  `encode` writes it in full, and `labelsAt` reads it from a
packet in which a name may go on at an earlier place: a length byte with its two top bits set
is the first half of a pointer.  A reader follows a limited number of pointers, which is why
it ends on every packet.

The dotted text of a name forgets where a label with a dot in it ends; `dotted` is that text.
-/

namespace DomainName

open List Option

/-- The bytes between two length bytes. -/
abbrev Label := List UInt8

/-- A label that can be written: its length byte is neither the end of a name nor a pointer. -/
def Label.Valid (label : Label) : Prop := label ≠ [] ∧ label.length ≤ 63

/-- A label with its length byte. -/
def encodeLabel (label : Label) : List UInt8 := UInt8.ofNat label.length :: label

/-- A name in full. -/
def encode (labels : List Label) : List UInt8 := labels.flatMap encodeLabel ++ [0]

/-- The two bytes of a pointer. -/
def encodePointer (target : ℕ) : List UInt8 :=
  [UInt8.ofNat (0xc0 + target / 256), UInt8.ofNat target]

/-- What a length byte says. -/
inductive Length where
  | root
  | label (size : ℕ)
  | pointer (high : ℕ)
  | reserved
deriving DecidableEq

open Length

/-- The meaning of a length byte by its two top bits. -/
def Length.ofByte (byte : UInt8) : Length :=
  if 192 ≤ byte.toNat then .pointer (byte.toNat - 192)
  else if 64 ≤ byte.toNat then .reserved
  else if byte.toNat = 0 then .root
  else .label byte.toNat

/-- The name at a place of a packet, and the place behind it.  A pointer leads strictly back,
and at most `limit` of them are followed. -/
def labelsAt (limit : ℕ) (packet : List UInt8) (jumps cursor : ℕ) : Option (List Label × ℕ) :=
  match _hbyte : packet[cursor]? with
  | none => none
  | some byte =>
    match Length.ofByte byte with
    | .root => some ([], cursor + 1)
    | .reserved => none
    | .label size =>
      if size ≤ packet.length - (cursor + 1) then
        (labelsAt limit packet jumps (cursor + 1 + size)).map fun name =>
          ((packet.drop (cursor + 1)).take size :: name.1, name.2)
      else none
    | .pointer high =>
      match packet[cursor + 1]? with
      | none => none
      | some low =>
        if _hjump : jumps < limit ∧ high * 256 + low.toNat < cursor then
          (labelsAt limit packet (jumps + 1) (high * 256 + low.toNat)).map fun name =>
            (name.1, cursor + 2)
        else none
termination_by (limit - jumps, packet.length - cursor)
decreasing_by
  · obtain ⟨hcursor, -⟩ := List.getElem?_eq_some_iff.mp _hbyte
    exact Prod.Lex.right _ (by omega)
  · exact Prod.Lex.left _ _ (by omega)

/-! ## Length bytes -/

lemma ofByte_label {label : Label} (h : label.Valid) :
    ofByte (UInt8.ofNat label.length) = .label label.length := by
  obtain ⟨hne, hle⟩ := h
  have hpos : 0 < label.length := length_pos_iff.mpr hne
  have hsize : (UInt8.ofNat label.length).toNat = label.length := by
    rw [UInt8.toNat_ofNat']
    omega
  rw [ofByte, hsize, if_neg (by omega), if_neg (by omega), if_neg (by omega)]

lemma ofByte_pointer {high : ℕ} (h : high < 64) :
    ofByte (UInt8.ofNat (0xc0 + high)) = .pointer high := by
  have hsize : (UInt8.ofNat (0xc0 + high)).toNat = 0xc0 + high := by
    rw [UInt8.toNat_ofNat']
    omega
  have hhigh : 0xc0 + high - 192 = high := by omega
  simp only [ofByte, hsize, hhigh, Nat.le_add_right, if_true]

lemma ofByte_eq_label {byte : UInt8} {size : ℕ} (h : ofByte byte = .label size) :
    size ≠ 0 ∧ size ≤ 63 := by
  unfold ofByte at h
  split_ifs at h
  obtain rfl := label.inj h
  omega

lemma labelsAt_valid {limit : ℕ} {packet : List UInt8} {jumps cursor behind : ℕ}
    {labels : List Label} (h : labelsAt limit packet jumps cursor = some (labels, behind)) :
    ∀ label ∈ labels, label.Valid := by
  fun_induction labelsAt limit packet jumps cursor generalizing labels behind with
  | case1 jumps cursor hbyte => cases h
  | case2 jumps cursor byte hbyte hkind =>
    cases h
    exact nofun
  | case3 jumps cursor byte hbyte hkind => cases h
  | case4 jumps cursor byte hbyte size hkind hsize ih =>
    obtain ⟨name, hname, heq⟩ := map_eq_some_iff.mp h
    obtain ⟨hpos, hle⟩ := ofByte_eq_label hkind
    have hlen : ((packet.drop (cursor + 1)).take size).length = size := by
      rw [length_take, length_drop]
      omega
    cases heq
    refine forall_mem_cons.mpr ⟨⟨?_, by omega⟩, ih hname⟩
    rintro hempty
    rw [hempty, length_nil] at hlen
    exact hpos hlen.symm
  | case5 jumps cursor byte hbyte size hkind hsize => cases h
  | case6 jumps cursor byte hbyte high hkind hsnd => cases h
  | case7 jumps cursor byte hbyte high hkind low hsnd hjump ih =>
    obtain ⟨name, hname, heq⟩ := map_eq_some_iff.mp h
    cases heq
    exact ih hname
  | case8 jumps cursor byte hbyte high hkind low hsnd hjump => cases h

/-! ## Reading what was written -/

section Reading

variable {limit : ℕ} {packet rest : List UInt8} {jumps cursor : ℕ}

lemma getElem?_of_drop {byte : UInt8} (h : packet.drop cursor = byte :: rest) :
    packet[cursor]? = some byte := by
  have hhead := congrArg head? h
  simpa [head?_drop] using hhead

lemma drop_add_of_drop {chunk : List UInt8} (h : packet.drop cursor = chunk ++ rest) :
    packet.drop (cursor + chunk.length) = rest := by
  rw [← drop_drop, h, drop_left]

lemma labelsAt_root (h : packet.drop cursor = 0 :: rest) :
    labelsAt limit packet jumps cursor = some ([], cursor + 1) := by
  rw [labelsAt]
  split
  · rename_i hbyte
    rw [getElem?_of_drop h] at hbyte
    cases hbyte
  · rename_i byte hbyte
    rw [getElem?_of_drop h] at hbyte
    obtain rfl := some.inj hbyte
    rfl

lemma labelsAt_label {label : Label} (hvalid : label.Valid)
    (h : packet.drop cursor = encodeLabel label ++ rest) :
    labelsAt limit packet jumps cursor =
      (labelsAt limit packet jumps (cursor + (encodeLabel label).length)).map fun name =>
        (label :: name.1, name.2) := by
  have hlen : (packet.drop cursor).length = label.length + 1 + rest.length := by
    rw [h]
    simp only [encodeLabel, length_append, length_cons]
  rw [length_drop] at hlen
  have hbody : packet.drop (cursor + 1) = label ++ rest := by
    rw [← drop_drop, h]
    rfl
  have hplace : cursor + (encodeLabel label).length = cursor + 1 + label.length := by
    simp only [encodeLabel, length_cons]
    omega
  rw [hplace, labelsAt]
  split
  · rename_i hbyte
    rw [getElem?_of_drop h] at hbyte
    cases hbyte
  rename_i byte hbyte
  rw [getElem?_of_drop h] at hbyte
  obtain rfl := some.inj hbyte
  rw [ofByte_label hvalid]
  dsimp only
  rw [if_pos (by omega), hbody, take_left]

lemma labelsAt_pointer {target : ℕ} (hjumps : jumps < limit) (hback : target < cursor)
    (htgt : target < 0x4000) (h : packet.drop cursor = encodePointer target ++ rest) :
    labelsAt limit packet jumps cursor =
      (labelsAt limit packet (jumps + 1) target).map fun name => (name.1, cursor + 2) := by
  have hbehind : packet.drop (cursor + 1) = UInt8.ofNat target :: rest := by
    rw [← drop_drop, h]
    rfl
  have hnext := getElem?_of_drop hbehind
  have hvalue : target / 256 * 256 + (UInt8.ofNat target).toNat = target := by
    rw [UInt8.toNat_ofNat']
    omega
  rw [labelsAt]
  split
  · rename_i hbyte
    rw [getElem?_of_drop h] at hbyte
    cases hbyte
  rename_i byte hbyte
  rw [getElem?_of_drop h] at hbyte
  obtain rfl := some.inj hbyte
  rw [ofByte_pointer (by omega)]
  rw [hnext]
  dsimp only
  rw [hvalue, dif_pos ⟨hjumps, hback⟩]

/-- **Round trip.**  A name written in full is read back, with the place behind it. -/
lemma labelsAt_encode {labels : List Label} (hvalid : ∀ label ∈ labels, label.Valid)
    (h : packet.drop cursor = encode labels ++ rest) :
    labelsAt limit packet jumps cursor = some (labels, cursor + (encode labels).length) := by
  induction labels generalizing cursor with
  | nil => exact labelsAt_root h
  | cons label labels ih =>
    have hchunk : encode (label :: labels) = encodeLabel label ++ encode labels := by
      simp [encode]
    rw [hchunk, append_assoc] at h
    have hrest := ih (fun other hother => hvalid other (.tail _ hother)) (drop_add_of_drop h)
    rw [labelsAt_label (hvalid label mem_cons_self) h, hrest, map_some, hchunk,
      length_append, Nat.add_assoc]

end Reading

/-! ## The dotted text -/

/-- The byte between two labels of a text. -/
def dot : UInt8 := 0x2e

/-- The text of a name. -/
def dotted (labels : List Label) : List UInt8 := [dot].intercalate labels

variable (text : List UInt8)

/-- A text that goes on with more labels. -/
def extend (labels : List Label) : List UInt8 :=
  labels.foldl (fun text label => if text = [] then label else text ++ dot :: label) text

@[simp] lemma extend_nil : extend text [] = text := rfl

lemma extend_cons (label : Label) (labels : List Label) :
    extend text (label :: labels) =
      extend (if text = [] then label else text ++ dot :: label) labels := rfl

lemma length_le_extend (labels : List Label) : text.length ≤ (extend text labels).length := by
  induction labels generalizing text with
  | nil => exact Nat.le_refl _
  | cons label labels ih =>
    rw [extend_cons]
    refine Nat.le_trans ?_ (ih _)
    split_ifs with htext
    · rw [htext]
      exact Nat.zero_le _
    · exact length_append ▸ Nat.le_add_right _ _

lemma extend_empty {labels : List Label} (hvalid : ∀ label ∈ labels, label.Valid) :
    extend [] labels = dotted labels := by
  have hmore : ∀ (labels : List Label) (text : List UInt8), text ≠ [] →
      (∀ label ∈ labels, label.Valid) → extend text labels = dotted (text :: labels) := by
    intro labels
    induction labels with
    | nil =>
      intro text _ _
      simp [dotted]
    | cons label labels ih =>
      intro text htext hvalid
      rw [extend_cons, if_neg htext, ih _ (by simp)
        fun other hother => hvalid other (.tail _ hother)]
      cases labels with
      | nil => simp [dotted, intercalate]
      | cons other labels => simp [dotted, intercalate, intersperse]
  cases labels with
  | nil => rfl
  | cons label labels =>
    exact hmore labels label (hvalid label mem_cons_self).1
      fun other hother => hvalid other (.tail _ hother)

lemma dotted_splitOn : dotted (text.splitOn dot) = text :=
  intercalate_splitOn dot

lemma dotted_cons (label : Label) {labels : List Label} (h : labels ≠ []) :
    dotted (label :: labels) = label ++ dot :: dotted labels := by
  cases labels with
  | nil => exact absurd rfl h
  | cons other labels => simp [dotted, intercalate, intersperse]

end DomainName
