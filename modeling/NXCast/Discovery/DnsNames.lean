import NXCast.Discovery.Dns

/-!
# What `read_name` reads

`read_name` follows the wire format of a name and returns its dotted text: on every packet and
from every place it is `DomainName.labelsAt`, cut to what fits the array of a name.
-/

namespace NXCast

open DomainName List

lemma length_bits (byte : UInt8) :
    (byte &&& 0xc0 = 0xc0 ↔ 192 ≤ byte.toNat) ∧ (byte &&& 0xc0 = 0 ↔ byte.toNat < 64) ∧
      (byte &&& 0x3f).toNat = byte.toNat % 64 := by
  have hall : ∀ n : Fin 256, (UInt8.ofNat n &&& 0xc0 = 0xc0 ↔ 192 ≤ (UInt8.ofNat n).toNat) ∧
      (UInt8.ofNat n &&& 0xc0 = 0 ↔ (UInt8.ofNat n).toNat < 64) ∧
      (UInt8.ofNat n &&& 0x3f).toNat = (UInt8.ofNat n).toNat % 64 := by
    decide +kernel
  have hbyte := hall ⟨byte.toNat, byte.toNat_lt⟩
  rwa [UInt8.ofNat_toNat] at hbyte

/-- What `read_name` makes of a name on the wire. -/
def nameText (next : Option ℕ) (output : List UInt8) :
    Option (List DomainName.Label × ℕ) → DnsRead (CString × ℕ)
  | none => .error .refused
  | some (labels, behind) =>
    if (extend output labels).length ≤ airplayDnsNameMax then
      .ok (CString.ofBuffer (extend output labels), next.getD behind)
    else .error .refused

lemma readLabel_eq {packet output : List UInt8} {cursor size : ℕ}
    (hout : output.length ≤ airplayDnsNameMax) (hsize : cursor + size ≤ packet.length) :
    readLabel packet output cursor size =
      if (extend output [(packet.drop cursor).take size]).length ≤ airplayDnsNameMax then
        .ok (extend output [(packet.drop cursor).take size])
      else .error .refused := by
  have hlen : ((packet.drop cursor).take size).length = size := by
    rw [length_take, length_drop]
    omega
  have hbytes : packetBytes packet cursor size = .ok ((packet.drop cursor).take size) :=
    if_pos hsize
  generalize (packet.drop cursor).take size = label at hlen hbytes
  unfold readLabel
  by_cases hempty : output = []
  · subst hempty
    simp only [extend_cons, extend_nil, if_true, length_nil, ne_eq, not_true_eq_false,
      if_false, pure_bind, readIf, hlen, Nat.sub_zero, hbytes]
    by_cases hfits : size ≤ airplayDnsNameMax
    · rw [if_pos hfits, if_pos hfits]
      exact if_pos (by simp only [length_nil, hlen]; omega)
    · rw [if_neg hfits, if_neg hfits]
      rfl
  have hpos : 0 < output.length := length_pos_iff.mpr hempty
  simp only [extend_cons, extend_nil, if_neg hempty, ne_eq, Nat.pos_iff_ne_zero.mp hpos,
    not_false_eq_true, if_true, length_append, length_cons, hlen, readIf]
  by_cases hdot : output.length < airplayDnsNameMax
  · have happend : nameAppend output [dot] = .ok (output ++ [dot]) :=
      if_pos (by simp only [length_singleton]; omega)
    rw [if_pos hdot, happend]
    show (readIf (size ≤ airplayDnsNameMax - (output ++ [dot]).length) >>= fun _ =>
      packetBytes packet cursor size >>= nameAppend (output ++ [dot])) = _
    rw [hbytes]
    have hroom : (output ++ [dot]).length = output.length + 1 := length_append
    have hwhole : output ++ [dot] ++ label = output ++ dot :: label := by
      rw [append_assoc, singleton_append]
    by_cases hfits : size ≤ airplayDnsNameMax - (output.length + 1)
    · rw [if_pos (by omega), readIf, hroom, if_pos hfits, ← hwhole]
      exact if_pos (by rw [hroom, hlen]; omega)
    · rw [if_neg (by omega), readIf, hroom, if_neg hfits]
      rfl
  · rw [if_neg hdot, if_neg (by omega)]
    rfl

lemma readNameLoop_turn {packet : List UInt8} {cursor : ℕ} {byte : UInt8}
    (hbyte : packet[cursor]? = some byte) {output : List UInt8}
    (hout : output.length ≤ airplayDnsNameMax) (jumps : ℕ) (next : Option ℕ) :
    readNameLoop packet jumps cursor next output =
      match Length.ofByte byte with
      | .root => .ok (CString.ofBuffer output, next.getD (cursor + 1))
      | .reserved => .error .refused
      | .label size =>
        if size ≤ packet.length - (cursor + 1) then
          readLabel packet output (cursor + 1) size >>=
            readNameLoop packet jumps (cursor + 1 + size) next
        else .error .refused
      | .pointer high =>
        match packet[cursor + 1]? with
        | none => .error .refused
        | some low =>
          if jumps < dnsMaxCompressionJumps ∧ high * 256 + low.toNat < cursor then
            readNameLoop packet (jumps + 1) (high * 256 + low.toNat) (next <|> some (cursor + 2))
              output
          else .error .refused := by
  obtain ⟨hcursor, hget⟩ := List.getElem?_eq_some_iff.mp hbyte
  obtain ⟨hpointer, hzero, hlow⟩ := length_bits byte
  rw [readNameLoop, dif_pos hcursor]
  simp only [packetByte, hbyte]
  by_cases hhigh : 192 ≤ byte.toNat
  · have hmod : byte.toNat % 64 = byte.toNat - 192 := by
      have hlt := byte.toNat_lt
      omega
    rw [if_pos (hpointer.mpr hhigh), hlow, hmod]
    simp only [Length.ofByte, if_pos hhigh]
    cases hsnd : packet[cursor + 1]? with
    | none => rw [if_pos (getElem?_eq_none_iff.mp hsnd)]
    | some low =>
      obtain ⟨hinside, -⟩ := List.getElem?_eq_some_iff.mp hsnd
      rw [if_neg (by omega)]
      dsimp only
      by_cases hjumps : jumps + 1 > dnsMaxCompressionJumps
      · rw [dif_pos hjumps, if_neg (by omega)]
      rw [dif_neg hjumps]
      by_cases hback : (byte.toNat - 192) * 256 + low.toNat < cursor
      · rw [if_neg (by omega), if_pos (by omega)]
      · rw [if_pos (by omega), if_neg (by omega)]
  rw [if_neg (fun h => hhigh (hpointer.mp h))]
  simp only [Length.ofByte, if_neg hhigh]
  by_cases hreserved : 64 ≤ byte.toNat
  · have hbits : byte &&& 0xc0 ≠ 0 := fun h => by
      have hsmall := hzero.mp h
      omega
    rw [if_pos (.inl hbits), if_pos hreserved]
  have hbits : byte &&& 0xc0 = 0 := hzero.mpr (by omega)
  have hsmall : ¬byte > 63 := by
    rw [gt_iff_lt, UInt8.lt_iff_toNat_lt]
    have hlimit : (63 : UInt8).toNat = 63 := rfl
    omega
  have hkept (hsize : byte.toNat ≤ packet.length - (cursor + 1)) :
      ¬(byte &&& 0xc0 ≠ 0 ∨ byte > 63 ∨ byte.toNat > packet.length - (cursor + 1)) := by
    rintro (h | h | h)
    · exact h hbits
    · exact hsmall h
    · omega
  rw [if_neg hreserved]
  by_cases hroot : byte.toNat = 0
  · have hbyteZero : byte = 0 := UInt8.toNat_inj.mp hroot
    have hroom : nameAppend output [0] = .ok (output ++ [0]) :=
      if_pos (by simp only [length_singleton]; omega)
    rw [if_pos hroot, if_neg (hkept (by omega)), if_pos hbyteZero, hroom]
  have hbyteZero : byte ≠ 0 := fun h => hroot (by rw [h]; rfl)
  rw [if_neg hroot]
  by_cases hsize : byte.toNat ≤ packet.length - (cursor + 1)
  · rw [if_neg (hkept hsize), if_neg hbyteZero]
    dsimp only
    rw [if_pos hsize]
    cases readLabel packet output (cursor + 1) byte.toNat with
    | ok | error => rfl
  · rw [if_pos (.inr (.inr (by omega)))]
    dsimp only
    rw [if_neg hsize]

/-- **`read_name`** is the wire reader, with the name as a text. -/
lemma readNameLoop_eq (packet : List UInt8) (jumps cursor : ℕ) (next : Option ℕ)
    (output : List UInt8) (hout : output.length ≤ airplayDnsNameMax) :
    readNameLoop packet jumps cursor next output =
      nameText next output (labelsAt dnsMaxCompressionJumps packet jumps cursor) := by
  fun_induction labelsAt dnsMaxCompressionJumps packet jumps cursor generalizing next output with
  | case1 jumps cursor hbyte =>
    rw [readNameLoop, dif_neg (Nat.not_lt.mpr (getElem?_eq_none_iff.mp hbyte))]
    rfl
  | case2 jumps cursor byte hbyte hkind =>
    rw [readNameLoop_turn hbyte hout, hkind]
    exact (if_pos hout).symm
  | case3 jumps cursor byte hbyte hkind =>
    rw [readNameLoop_turn hbyte hout, hkind]
    rfl
  | case4 jumps cursor byte hbyte size hkind hsize ih =>
    obtain ⟨hcursor, -⟩ := List.getElem?_eq_some_iff.mp hbyte
    rw [readNameLoop_turn hbyte hout, hkind]
    dsimp only
    rw [if_pos hsize, readLabel_eq hout (by omega)]
    set label := (packet.drop (cursor + 1)).take size
    by_cases hfits : (extend output [label]).length ≤ airplayDnsNameMax
    · rw [if_pos hfits]
      show readNameLoop packet jumps (cursor + 1 + size) next (extend output [label]) = _
      rw [ih next _ hfits]
      cases labelsAt dnsMaxCompressionJumps packet jumps (cursor + 1 + size) with
      | none | some => rfl
    · rw [if_neg hfits]
      cases labelsAt dnsMaxCompressionJumps packet jumps (cursor + 1 + size) with
      | none => rfl
      | some name =>
        have hmore := length_le_extend (extend output [label]) name.1
        exact (if_neg fun hall => hfits (Nat.le_trans hmore hall)).symm
  | case5 jumps cursor byte hbyte size hkind hsize =>
    rw [readNameLoop_turn hbyte hout, hkind]
    exact if_neg hsize
  | case6 jumps cursor byte hbyte high hkind hsnd =>
    rw [readNameLoop_turn hbyte hout, hkind]
    rw [hsnd]
    rfl
  | case7 jumps cursor byte hbyte high hkind low hsnd hjump ih =>
    rw [readNameLoop_turn hbyte hout, hkind]
    rw [hsnd]
    dsimp only
    rw [if_pos hjump, ih _ _ hout]
    cases labelsAt dnsMaxCompressionJumps packet (jumps + 1) (high * 256 + low.toNat) with
    | none => rfl
    | some name => cases next <;> rfl
  | case8 jumps cursor byte hbyte high hkind low hsnd hjump =>
    rw [readNameLoop_turn hbyte hout, hkind]
    rw [hsnd]
    exact if_neg hjump

/-- **Reading a name**, for a name that the wire reader finds. -/
lemma readName_of_labelsAt {packet : List UInt8} {offset behind : ℕ}
    {labels : List DomainName.Label} (h : labelsAt dnsMaxCompressionJumps packet 0 offset =
      some (labels, behind))
    (hfits : (extend [] labels).length ≤ airplayDnsNameMax) :
    readName packet offset = .ok (CString.ofBuffer (extend [] labels), behind) := by
  have hoff : offset < packet.length := by
    by_contra houtside
    rw [labelsAt] at h
    split at h
    · cases h
    · rename_i hbyte
      exact houtside (List.getElem?_eq_some_iff.mp hbyte).1
  rw [readName, if_neg (by omega), readNameLoop_eq _ _ _ _ _ (Nat.zero_le _), h]
  exact if_pos hfits

end NXCast
